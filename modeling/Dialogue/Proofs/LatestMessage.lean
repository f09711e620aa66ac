import Dialogue.Proofs.BuiltinAnswers
import Dialogue.Proofs.QuietPolicies
import Dialogue.Proofs.ReplayAgreement

/-!
The policy for unexpected intents takes the last message whose intent is known. So it judges the
latest message if its intent is known, and else an earlier one, which was judged already.
-/
namespace Dialogue

namespace Event

def intent? (interpreter : Interpreter) : Event → Option String
  | userUttered text intent _ => Replay.intentName interpreter intent text
  | _ => none

def move? (event : Event) : Option String := event.action?.filter (· != listenAction)

end Event

namespace UnexpectedIntentPolicy

variable {interpreter : Interpreter} {events : List Event} {action intent : String}

/-! ### Turns of the user -/

/-- The latest action other than a listen, as far as the last restart. -/
def latestMove (events : List Event) : String :=
  ((events.reverse.takeWhile (!·.isRestart)).findSome? Event.move?).getD conversationStart

def IsTurn (interpreter : Interpreter) (action intent : String) (before : List Event)
    (event : Event) : Prop :=
  event.intent? interpreter = some intent ∧ latestMove before = action

def Says (interpreter : Interpreter) (events : List Event) (action intent : String) : Prop :=
  Lately (IsTurn interpreter action intent) (fun _ => True) events

/-- The latest message whose intent is known has this intent and came after this action. -/
def SaysLast (interpreter : Interpreter) (events : List Event) (action intent : String) : Prop :=
  Lately (IsTurn interpreter action intent) (fun event => event.intent? interpreter = none) events

def moved (latest : String) (event : Event) : String :=
  if event.isRestart then conversationStart else event.move?.getD latest

theorem latestMove_concat (events : List Event) (last : Event) :
    latestMove (events ++ [last]) = moved (latestMove events) last := by
  unfold latestMove moved
  rw [List.reverse_append, List.reverse_singleton, List.singleton_append, List.takeWhile_cons]
  cases last.isRestart with
  | true => rfl
  | false =>
    rw [Bool.not_false, if_pos rfl, List.findSome?_cons]
    cases last.move? <;> rfl

theorem foldl_moved (events : List Event) :
    events.foldl moved conversationStart = latestMove events := by
  induction events using List.reverseRecOn with
  | nil => rfl
  | append_singleton events last ih =>
    rw [List.foldl_append, List.foldl_cons, List.foldl_nil, ih, latestMove_concat]

theorem moved_executed (latest : String) (name text policy : Option String)
    (confidence : Option Float) : moved latest (.actionExecuted name text policy confidence) =
      match name <|> text with
      | some action => if action = listenAction then latest else action
      | none => latest := by
  show ((name <|> text).filter (· != listenAction)).getD latest = _
  cases (name <|> text) with
  | none => rfl
  | some action => by_cases hlisten : action = listenAction <;> simp [Option.filter, hlisten]

theorem turnsFrom_cons (latest : String) (event : Event) (rest : List Event) :
    turnsFrom interpreter latest (event :: rest) =
      ((event.intent? interpreter).map (latest, ·)).toList ++
        turnsFrom interpreter (moved latest event) rest := by
  cases event with
  | userUttered text intent entities =>
    have hmoved : moved latest (.userUttered text intent entities) = latest := rfl
    rw [turnsFrom, hmoved, Event.intent?]
    cases Replay.intentName interpreter intent text <;> rfl
  | actionExecuted name text policy confidence =>
    rw [moved_executed]
    rfl
  | _ => rfl

theorem turnsFrom_concat (latest : String) (events : List Event) (last : Event) :
    turnsFrom interpreter latest (events ++ [last]) = turnsFrom interpreter latest events ++
      ((last.intent? interpreter).map (events.foldl moved latest, ·)).toList := by
  induction events generalizing latest with
  | nil =>
    rw [List.nil_append, turnsFrom_cons]
    simp [turnsFrom]
  | cons event rest ih => rw [List.cons_append, turnsFrom_cons, turnsFrom_cons, ih]; simp

theorem turns_concat (events : List Event) (last : Event) :
    turnsFrom interpreter conversationStart (events ++ [last]) =
      turnsFrom interpreter conversationStart events ++
        ((last.intent? interpreter).map (latestMove events, ·)).toList := by
  rw [turnsFrom_concat, foldl_moved]

theorem mem_turns_iff :
    (action, intent) ∈ turnsFrom interpreter conversationStart events ↔
      Says interpreter events action intent := by
  induction events using List.reverseRecOn with
  | nil => exact iff_of_false List.not_mem_nil not_lately_nil
  | append_singleton events last ih =>
    unfold Says IsTurn at ih ⊢
    rw [turns_concat, List.mem_append, ih, lately_concat]
    cases last.intent? interpreter with
    | none => simp
    | some name => simp [or_comm, and_comm, eq_comm]

theorem getLast?_turns_iff :
    (turnsFrom interpreter conversationStart events).getLast? = some (action, intent) ↔
      SaysLast interpreter events action intent := by
  induction events using List.reverseRecOn with
  | nil => exact iff_of_false (by simp [turnsFrom]) not_lately_nil
  | append_singleton events last ih =>
    unfold SaysLast IsTurn at ih ⊢
    rw [turns_concat, lately_concat]
    cases last.intent? interpreter with
    | none => simpa using ih
    | some name => simp [and_comm]

/-! ### What was observed -/

/-- The intent is not ignored, some story has an intent after the action, and none has this one. -/
def Unheard (ignored : List String) (interpreter : Interpreter) (trackers : List Tracker)
    (action intent : String) : Prop :=
  intent ∉ ignored ∧
    (∃ story ∈ stories trackers, ∃ other, Says interpreter story.events action other) ∧
    ∀ story ∈ stories trackers, ¬ Says interpreter story.events action intent

theorem contains_foldl {turns : List (String × String)} :
    (turns.foldl observe ∅).contains action = true ↔ ∃ intent, (action, intent) ∈ turns := by
  induction turns using List.reverseRecOn with
  | nil => simp [SortedMap.contains]
  | append_singleton turns seen ih =>
    obtain ⟨seenAction, seenIntent⟩ := seen
    unfold SortedMap.contains at ih ⊢
    rw [List.foldl_append, List.foldl_cons, List.foldl_nil, observe, SortedMap.get?_insert]
    by_cases haction : action = seenAction
    · simp [haction]
    · simp [haction, ih]

theorem mem_learned_iff {trackers : List Tracker} :
    (action, intent) ∈ (stories trackers).flatMap (userTurns · interpreter) ↔
      ∃ story ∈ stories trackers, Says interpreter story.events action intent := by
  simp only [List.mem_flatMap, userTurns, mem_turns_iff]

theorem isUnlikely_train_iff (policy : UnexpectedIntentPolicy) (trackers : List Tracker)
    (interpreter : Interpreter) (action intent : String) :
    (policy.train trackers interpreter).isUnlikely action intent = true ↔
      Unheard policy.ignoredIntents interpreter trackers action intent := by
  have hknown : (policy.train trackers interpreter).observed.contains action = true ↔
      ∃ story ∈ stories trackers, ∃ other, Says interpreter story.events action other := by
    refine contains_foldl.trans ?_
    simp only [mem_learned_iff]
    exact ⟨fun ⟨other, story, hstory, h⟩ => ⟨story, hstory, other, h⟩,
      fun ⟨story, hstory, other, h⟩ => ⟨other, story, hstory, h⟩⟩
  have hseen : (policy.train trackers interpreter).wasObserved action intent = true ↔
      ∃ story ∈ stories trackers, Says interpreter story.events action intent :=
    saw_foldl.trans mem_learned_iff
  have hunseen : (!(policy.train trackers interpreter).wasObserved action intent) = true ↔
      ∀ story ∈ stories trackers, ¬ Says interpreter story.events action intent := by
    rw [Bool.not_eq_true', ← Bool.not_eq_true, hseen, not_exists]
    simp only [not_and]
  have hcounts : (!(policy.train trackers interpreter).ignoredIntents.contains intent) = true ↔
      intent ∉ policy.ignoredIntents := by
    simp [train]
  unfold isUnlikely Unheard
  rw [Bool.and_eq_true, Bool.and_eq_true, hcounts, hknown, hunseen, and_assoc]

/-! ### Judgement -/

/-- The policy finds the intent unlikely under a condition, and abstains otherwise. -/
structure Judges (policy : UnexpectedIntentPolicy) (tracker : Tracker) (domain : Domain)
    (interpreter : Interpreter) (condition : Prop) : Prop where
  warns_iff : Prediction.Chooses (policy.predict tracker domain interpreter) domain
    unlikelyIntentAction policy.priority ↔ condition
  abstains_iff : policy.predict tracker domain interpreter = .ok (.abstain policy.priority) ↔
    ¬ condition

variable {policy : UnexpectedIntentPolicy} {tracker : Tracker} {domain : Domain}

theorem Judges.iff_iff {condition other : Prop}
    (h : policy.Judges tracker domain interpreter condition) :
    policy.Judges tracker domain interpreter other ↔ (condition ↔ other) := by
  constructor
  · exact fun hother => h.warns_iff.symm.trans hother.warns_iff
  · intro hiff
    exact ⟨h.warns_iff.trans hiff, h.abstains_iff.trans (not_congr hiff)⟩

theorem judges_of_abstains {condition : Prop}
    (h : policy.predict tracker domain interpreter = .ok (.abstain policy.priority))
    (hcondition : ¬ condition) : policy.Judges tracker domain interpreter condition :=
  ⟨iff_of_false (Prediction.not_chooses_abstain h) hcondition, iff_of_true h hcondition⟩

theorem judges_of_warns {condition : Prop}
    (h : Prediction.Chooses (policy.predict tracker domain interpreter) domain
      unlikelyIntentAction policy.priority)
    (hcondition : condition) : policy.Judges tracker domain interpreter condition :=
  ⟨iff_of_true h hcondition, iff_of_false (fun habstains =>
    Prediction.not_chooses_abstain habstains h) (not_not_intro hcondition)⟩

theorem judges_latestTurn (policy : UnexpectedIntentPolicy) (tracker : Tracker) (domain : Domain)
    (interpreter : Interpreter) : policy.Judges tracker domain interpreter
      (∃ action intent, latestTurn tracker interpreter = some (action, intent) ∧
        policy.isUnlikely action intent = true) := by
  cases hturn : latestTurn tracker interpreter with
  | none =>
    apply judges_of_abstains
    · unfold predict
      rw [hturn]
    · rintro ⟨_, _, h, _⟩
      cases h
  | some turn =>
    obtain ⟨action, intent⟩ := turn
    cases hunlikely : policy.isUnlikely action intent with
    | false =>
      apply judges_of_abstains
      · unfold predict
        simp [hturn, hunlikely]
      · rintro ⟨_, _, h, htrue⟩
        cases h
        rw [hunlikely] at htrue
        cases htrue
    | true =>
      have hdefault : unlikelyIntentAction ∈ defaultActions := by decide
      obtain ⟨index, hindex⟩ := Domain.hasAction_iff.1 (domain.hasAction_of_default hdefault)
      have hprediction : Prediction.ofAction domain unlikelyIntentAction 1.0 = .ok _ :=
        Prediction.ofAction_eq_ok_iff.2 ⟨index, hindex, rfl⟩
      apply judges_of_warns
      · unfold predict
        simp only [hturn, hunlikely, if_true, hprediction]
        exact ⟨_, index, rfl, hindex, rfl, rfl⟩
      · exact ⟨action, intent, rfl, hunlikely⟩

/-! ### The latest message -/

def SpeaksNow (interpreter : Interpreter) (events : List Event) (action intent : String) : Prop :=
  ∃ before last, events = before ++ [last] ∧ IsTurn interpreter action intent before last

/-- The conversation ends with a message whose intent is not known, and the message before it whose
intent is known has this one, after this action. -/
def Echoes (interpreter : Interpreter) (events : List Event) (action intent : String) : Prop :=
  ∃ before last, events = before ++ [last] ∧ last.isUser = true ∧
    last.intent? interpreter = none ∧ SaysLast interpreter before action intent

theorem isUser_of_intent? {event : Event} (h : event.intent? interpreter = some intent) :
    event.isUser = true := by
  cases event with
  | userUttered text intent entities => rfl
  | _ => cases h

theorem latestTurn_eq_some_iff : latestTurn tracker interpreter = some (action, intent) ↔
    SpeaksNow interpreter tracker.events action intent ∨
      Echoes interpreter tracker.events action intent := by
  have hlatest : latestTurn tracker interpreter = some (action, intent) ↔
      tracker.events.getLast?.any Event.isUser = true ∧
        SaysLast interpreter tracker.events action intent := by
    unfold latestTurn userTurns Tracker.latestEvent
    rw [← getLast?_turns_iff]
    split <;> simp [*]
  rw [hlatest]
  rcases List.eq_nil_or_concat tracker.events with hevents | ⟨before, last, hevents⟩
  · rw [hevents]
    refine iff_of_false (fun h => by cases h.1) ?_
    rintro (⟨_, _, h, _⟩ | ⟨_, _, h, _⟩) <;> simp at h
  · rw [List.concat_eq_append] at hevents
    rw [hevents, List.getLast?_concat, Option.any_some]
    unfold SaysLast
    rw [lately_concat]
    constructor
    · rintro ⟨huser, hturn | ⟨hnone, hearlier⟩⟩
      · exact Or.inl ⟨before, last, rfl, hturn⟩
      · exact Or.inr ⟨before, last, rfl, huser, hnone, hearlier⟩
    · rintro (⟨front, other, hfront, hturn⟩ | ⟨front, other, hfront, huser, hnone, hearlier⟩)
      · obtain ⟨rfl, hother⟩ := List.append_inj' hfront rfl
        cases hother
        exact ⟨isUser_of_intent? hturn.1, Or.inl hturn⟩
      · obtain ⟨rfl, hother⟩ := List.append_inj' hfront rfl
        cases hother
        exact ⟨huser, Or.inr ⟨hnone, hearlier⟩⟩

theorem Echoes.not_speaksNow {other known : String}
    (h : Echoes interpreter events action intent) :
    ¬ SpeaksNow interpreter events other known := by
  obtain ⟨before, last, rfl, _, hnone, _⟩ := h
  rintro ⟨front, event, hfront, hknown, _⟩
  obtain ⟨_, hlast⟩ := List.append_inj' hfront rfl
  cases hlast
  cases hnone.symm.trans hknown

/-- After training the policy judges the latest message whose intent is known, provided that the
user spoke last. So it judges the message at hand, unless the intent of that is not known and an
earlier message is unlikely. -/
theorem judges_train_iff (policy : UnexpectedIntentPolicy) (trackers : List Tracker)
    (tracker : Tracker) (domain : Domain) (interpreter : Interpreter) :
    (policy.train trackers interpreter).Judges tracker domain interpreter
        (∃ action intent, (SpeaksNow interpreter tracker.events action intent ∨
            Echoes interpreter tracker.events action intent) ∧
          Unheard policy.ignoredIntents interpreter trackers action intent) ∧
      ((policy.train trackers interpreter).Judges tracker domain interpreter
          (∃ action intent, SpeaksNow interpreter tracker.events action intent ∧
            Unheard policy.ignoredIntents interpreter trackers action intent) ↔
        ¬ ∃ action intent, Echoes interpreter tracker.events action intent ∧
          Unheard policy.ignoredIntents interpreter trackers action intent) := by
  have hjudges := judges_latestTurn (policy.train trackers interpreter) tracker domain interpreter
  simp only [latestTurn_eq_some_iff, isUnlikely_train_iff] at hjudges
  refine ⟨hjudges, hjudges.iff_iff.trans ?_⟩
  constructor
  · rintro hiff ⟨action, intent, hechoes, hunheard⟩
    obtain ⟨_, _, hspeaks, _⟩ := hiff.1 ⟨action, intent, Or.inr hechoes, hunheard⟩
    exact hechoes.not_speaksNow hspeaks
  · intro hclear
    constructor
    · rintro ⟨action, intent, hspeaks | hechoes, hunheard⟩
      · exact ⟨action, intent, hspeaks, hunheard⟩
      · exact absurd ⟨action, intent, hechoes, hunheard⟩ hclear
    · rintro ⟨action, intent, hspeaks, hunheard⟩
      exact ⟨action, intent, Or.inl hspeaks, hunheard⟩

def greeted : Tracker :=
  .ofEvents "story" [.executed listenAction, .uttered "hi" "greet", .executed "utter_greet"]

/-- The user begins with a farewell, which no story does, and goes on with a text that is not
understood. -/
def mumbled : Tracker :=
  .ofEvents "user" ([.executed listenAction, .uttered "bye" "goodbye"] ++
    [.utteredText "what is that"])

theorem not_judges_mumbled :
    ¬ (UnexpectedIntentPolicy.default.train [greeted] .ofMessages).Judges mumbled .empty .ofMessages
      (∃ action intent, SpeaksNow .ofMessages mumbled.events action intent ∧
        Unheard [] .ofMessages [greeted] action intent) := by
  intro hjudges
  obtain ⟨_, _, ⟨before, last, hevents, hknown, _⟩, _⟩ :=
    hjudges.warns_iff.1 ⟨_, 9, rfl, by decide +kernel, rfl, rfl⟩
  obtain ⟨_, hlast⟩ := List.append_inj' hevents rfl
  cases hlast
  have hunclear : (Event.utteredText "what is that").intent? .ofMessages = none := by
    decide +kernel
  cases hunclear.symm.trans hknown

end UnexpectedIntentPolicy

end Dialogue
