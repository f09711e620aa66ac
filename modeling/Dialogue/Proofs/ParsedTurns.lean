import Dialogue.Policy.Builtin
import Dialogue.Proofs.ReplayParts
import Mathlib.Data.List.Induction

/-!
A replay takes the intent from what its interpreter understands and leaves the entities behind. So a
message that was understood before comes to the same exactly if it has no entities or no later state
shows them.
-/
namespace Dialogue

variable {domain : Domain} {interpreter : Interpreter} {replay : Replay} {event : Event}

theorem SortedMap.entries_ofList_eq_nil {α : Type} {entries : List (String × α)} :
    (SortedMap.ofList entries).entries = [] ↔ entries = [] := by
  induction entries using List.reverseRecOn with
  | nil => exact iff_of_true rfl rfl
  | append_singleton entries last ih =>
    have hne (map : SortedMap α) : (map.insert last.1 last.2).entries ≠ [] := by
      intro hnil
      have hget : (map.insert last.1 last.2).get? last.1 = some last.2 := by simp
      rw [get?, hnil] at hget
      cases hget
    refine iff_of_false ?_ (by simp)
    simpa [ofList] using hne _

def Event.endsMessage : Event → Bool
  | userUttered .. | restarted => true
  | _ => false

namespace Replay

theorem entityNames_eq_nil {entities : List Entity} : entityNames entities = [] ↔ entities = [] := by
  simp [entityNames, SortedMap.keys, SortedMap.entries_ofList_eq_nil]

def withEntities (replay : Replay) (entities : List String) : Replay :=
  { replay with entities }

/-- The message shows in the state before an action that follows, or in the last state. -/
def Shows (interpreter : Interpreter) (replay : Replay) : List Event → Prop
  | [] => replay.prevAction = some listenAction
  | event :: rest =>
    event.action? ≠ none ∧ replay.prevAction = some listenAction ∨
      event.endsMessage = false ∧ Shows interpreter (replay.observe interpreter event) rest

theorem observe_ofParse {text : String} (h : (interpreter.parse text).text = text)
    (replay : Replay) :
    replay.observe interpreter (.ofParse (interpreter.parse text)) =
      (replay.observe interpreter (.utteredText text)).withEntities
        (entityNames (interpreter.parse text).entities) := by
  have hname : intentName interpreter (interpreter.parse text).intent (some text) =
      intentName interpreter none (some text) := by
    cases hintent : (interpreter.parse text).intent <;> simp [intentName, hintent]
  simp only [observe, Event.ofParse, Event.utteredText, withEntities, h, hname]

theorem observe_withEntities (h : event.endsMessage = false) (replay : Replay)
    (entities : List String) :
    (replay.withEntities entities).observe interpreter event =
      (replay.observe interpreter event).withEntities entities := by
  cases event with
  | userUttered text intent found => cases h
  | restarted => cases h
  | actionExecuted name text policy confidence => cases name <;> cases text <;> rfl
  | _ => rfl

theorem observe_withEntities_of_ends (h : event.endsMessage = true) (replay : Replay)
    (entities : List String) :
    (replay.withEntities entities).observe interpreter event =
      replay.observe interpreter event := by
  cases event with
  | userUttered text intent found => rfl
  | restarted => rfl
  | _ => cases h

theorem entities_observe (h : event.endsMessage = false) (replay : Replay) :
    (replay.observe interpreter event).entities = replay.entities := by
  cases event with
  | userUttered text intent found => cases h
  | restarted => cases h
  | actionExecuted name text policy confidence => cases name <;> cases text <;> rfl
  | _ => rfl

theorem state_withEntities_eq_iff {entities : List String} :
    (replay.withEntities entities).state domain = replay.state domain ↔
      entities = replay.entities ∨ replay.prevAction ≠ some listenAction := by
  by_cases h : replay.prevAction = some listenAction <;> simp [state, withEntities, h]

end Replay

theorem Event.action?_of_ends (h : event.endsMessage = true) : event.action? = none := by
  cases event with
  | userUttered text intent entities => rfl
  | restarted => rfl
  | _ => cases h

/-! ### Histories -/

def TurnState.withoutEntities (state : TurnState) : TurnState := { state with entities := [] }

namespace History

theorem cons_eq_cons_iff {first second : TurnState} {action : String} {earlier later : History} :
    History.mk ((first, action) :: earlier.turns) earlier.current =
        ⟨(second, action) :: later.turns, later.current⟩ ↔ first = second ∧ earlier = later := by
  cases earlier
  cases later
  simp [and_assoc]

/-- Other entities of the message make another history if and only if the message shows. -/
theorem replayFrom_withEntities_eq_iff {entities : List String} (replay : Replay)
    (events : List Event) :
    replayFrom domain interpreter (replay.withEntities entities) events =
        replayFrom domain interpreter replay events ↔
      entities = replay.entities ∨ ¬ replay.Shows interpreter events := by
  induction events generalizing replay with
  | nil => simpa [replayFrom, Replay.Shows] using Replay.state_withEntities_eq_iff
  | cons event rest ih =>
    cases hends : event.endsMessage with
    | true =>
      -- From here on the replay is the same with any entities.
      have haction := Event.action?_of_ends hends
      simp [replayFrom, Replay.Shows, haction, hends, Replay.observe_withEntities_of_ends hends]
    | false =>
      have hlater := ih (replay.observe interpreter event)
      rw [← Replay.observe_withEntities hends, Replay.entities_observe hends] at hlater
      cases haction : event.action? with
      | none => simpa [replayFrom, Replay.Shows, haction, hends] using hlater
      | some action =>
        simp only [replayFrom, haction, cons_eq_cons_iff, Replay.state_withEntities_eq_iff, hlater,
          Replay.Shows, hends]
        tauto

def withoutEntities (history : History) : History :=
  ⟨history.turns.map fun (state, action) => (state.withoutEntities, action),
    history.current.withoutEntities⟩

theorem withoutEntities_cons (state : TurnState) (action : String) (later : History) :
    (History.mk ((state, action) :: later.turns) later.current).withoutEntities =
      ⟨(state.withoutEntities, action) :: later.withoutEntities.turns,
        later.withoutEntities.current⟩ := rfl

theorem withoutEntities_replayFrom (replay : Replay) (entities : List String)
    (events : List Event) :
    (replayFrom domain interpreter (replay.withEntities entities) events).withoutEntities =
      (replayFrom domain interpreter replay events).withoutEntities := by
  induction events generalizing replay with
  | nil => rfl
  | cons event rest ih =>
    cases hends : event.endsMessage with
    | true =>
      have haction := Event.action?_of_ends hends
      simp [replayFrom, haction, Replay.observe_withEntities_of_ends hends]
    | false =>
      have hlater := ih (replay.observe interpreter event)
      rw [← Replay.observe_withEntities hends] at hlater
      cases haction : event.action? with
      | none => simpa [replayFrom, haction] using hlater
      | some action =>
        simp only [replayFrom, haction, withoutEntities_cons, hlater]
        rfl

def precededBy (later : History) (turns : List (TurnState × String)) : History :=
  ⟨turns ++ later.turns, later.current⟩

theorem precededBy_inj {first second : History} {turns : List (TurnState × String)} :
    first.precededBy turns = second.precededBy turns ↔ first = second := by
  cases first
  cases second
  simp [precededBy]

theorem withoutEntities_precededBy (later : History) (turns : List (TurnState × String)) :
    (later.precededBy turns).withoutEntities = later.withoutEntities.precededBy
      (turns.map fun (state, action) => (state.withoutEntities, action)) := by
  simp [precededBy, withoutEntities]

theorem ofEvents_append (before since : List Event) :
    ofEvents domain interpreter (before ++ since) =
      (replayFrom domain interpreter (Replay.after interpreter before) since).precededBy
        (ofEvents domain interpreter before).turns := by
  have hcurrent : (ofEvents domain interpreter (before ++ since)).current =
      (replayFrom domain interpreter (Replay.after interpreter before) since).current := by
    rw [current_ofEvents, current_replayFrom]
    simp [Replay.after]
  unfold precededBy
  rw [← turns_ofEvents_append, ← hcurrent]

theorem ofEvents_message (before since : List Event) (h : event.action? = none) :
    ofEvents domain interpreter (before ++ event :: since) =
      (replayFrom domain interpreter
        (Replay.after interpreter (before ++ [event])) since).precededBy
          (ofEvents domain interpreter before).turns := by
  rw [ofEvents_append, replayFrom, h, Replay.after_concat]

variable {text : String}

theorem ofEvents_ofParse_eq_iff (h : (interpreter.parse text).text = text)
    (before since : List Event) :
    ofEvents domain interpreter (before ++ .ofParse (interpreter.parse text) :: since) =
        ofEvents domain interpreter (before ++ .utteredText text :: since) ↔
      (interpreter.parse text).entities = [] ∨
        ¬ (Replay.after interpreter (before ++ [.utteredText text])).Shows interpreter since := by
  have hnone : (Replay.after interpreter (before ++ [.utteredText text])).entities = [] := by
    rw [Replay.after_concat]
    rfl
  rw [ofEvents_message before since rfl, ofEvents_message before since rfl, precededBy_inj,
    Replay.after_concat before (.ofParse _), Replay.observe_ofParse h, ← Replay.after_concat,
    replayFrom_withEntities_eq_iff, hnone, Replay.entityNames_eq_nil]

theorem withoutEntities_ofParse (h : (interpreter.parse text).text = text)
    (before since : List Event) :
    (ofEvents domain interpreter
        (before ++ .ofParse (interpreter.parse text) :: since)).withoutEntities =
      (ofEvents domain interpreter (before ++ .utteredText text :: since)).withoutEntities := by
  rw [ofEvents_message before since rfl, ofEvents_message before since rfl,
    withoutEntities_precededBy, withoutEntities_precededBy,
    Replay.after_concat before (.ofParse _), Replay.observe_ofParse h, ← Replay.after_concat,
    withoutEntities_replayFrom]

end History

/-! ### What policies make of histories -/

section

variable {first second : Tracker} {trackers others front back : List Tracker}

theorem map_history_stories
    (h : first.history domain interpreter = second.history domain interpreter)
    (hrule : first.isRule = second.isRule) (front back : List Tracker) :
    (stories (front ++ first :: back)).map (·.history domain interpreter) =
      (stories (front ++ second :: back)).map (·.history domain interpreter) := by
  simp only [stories, List.filter_append, List.filter_cons, hrule]
  split <;> simp [h]

theorem map_history_rules
    (h : first.history domain interpreter = second.history domain interpreter)
    (hrule : first.isRule = second.isRule) (front back : List Tracker) :
    (rules (front ++ first :: back)).map (·.history domain interpreter) =
      (rules (front ++ second :: back)).map (·.history domain interpreter) := by
  simp only [rules, List.filter_append, List.filter_cons, hrule]
  split <;> simp [h]

theorem Memory.train_congr (memory : Memory) (everyLength : Bool)
    (h : (stories trackers).map (·.history domain interpreter) =
      (stories others).map (·.history domain interpreter)) :
    (memory.train everyLength trackers domain interpreter).1 =
      (memory.train everyLength others domain interpreter).1 := by
  have hlessons (trackers : List Tracker) :
      memory.lessons everyLength trackers domain interpreter =
        ((stories trackers).map (·.history domain interpreter)).flatMap fun history =>
          history.contexts.flatMap fun context =>
            (memory.windows everyLength context.1).map (·, context.2) := by
    rw [List.flatMap_map]
    rfl
  simp only [train, hlessons, h]

theorem RulePolicy.train_congr (policy : RulePolicy)
    (h : (stories trackers).map (·.history domain interpreter) =
      (stories others).map (·.history domain interpreter))
    (hrules : (rules trackers).map (·.history domain interpreter) =
      (rules others).map (·.history domain interpreter)) :
    (policy.train trackers domain interpreter).1 = (policy.train others domain interpreter).1 := by
  have hlearn (trackers : List Tracker) : Rule.learn trackers domain interpreter =
      distinct (((rules trackers).map (·.history domain interpreter)).flatMap Rule.ofHistory) := by
    rw [List.flatMap_map]
    rfl
  simp only [train, hlearn, h, hrules]

end

namespace BuiltinPolicy

/-- The policy learns from histories and predicts by them. -/
def ReadsHistories : BuiltinPolicy → Prop
  | memoization _ | augmentedMemoization _ | rule _ => True
  | unexpectedIntent _ | fallback _ => False

def learned (policy : BuiltinPolicy) (trackers : List Tracker) (domain : Domain)
    (interpreter : Interpreter) : Except Error BuiltinPolicy :=
  (Policy.train policy trackers domain interpreter).map Prod.fst

variable {policy : BuiltinPolicy} {first second : Tracker}

theorem predict_congr (hreads : policy.ReadsHistories)
    (h : first.history domain interpreter = second.history domain interpreter) :
    Policy.predict policy first domain interpreter =
      Policy.predict policy second domain interpreter := by
  cases policy with
  | memoization policy =>
    simp only [Policy.predict, MemoizationPolicy.predict, h]
  | augmentedMemoization policy =>
    simp only [Policy.predict, AugmentedMemoizationPolicy.predict, h]
  | rule policy => simp only [Policy.predict, RulePolicy.predict, h]
  | unexpectedIntent policy => exact hreads.elim
  | fallback policy => exact hreads.elim

theorem learned_congr (hreads : policy.ReadsHistories)
    (h : first.history domain interpreter = second.history domain interpreter)
    (hrule : first.isRule = second.isRule) (front back : List Tracker) :
    policy.learned (front ++ first :: back) domain interpreter =
      policy.learned (front ++ second :: back) domain interpreter := by
  have hstories := map_history_stories h hrule front back
  cases policy with
  | memoization policy =>
    simp only [learned, Policy.train, Except.map, policy.memory.train_congr false hstories]
  | augmentedMemoization policy =>
    simp only [learned, Policy.train, Except.map, policy.memory.train_congr true hstories]
  | rule policy =>
    have hrules := map_history_rules h hrule front back
    simp only [learned, Policy.train, Except.map, policy.train_congr hstories hrules]
  | unexpectedIntent policy => exact hreads.elim
  | fallback policy => exact hreads.elim

end BuiltinPolicy

/-! ### Interchange -/

/-- Between the same other events the two make the same history, and policies that read histories
predict and learn the same with either. -/
structure Event.Interchangeable (domain : Domain) (interpreter : Interpreter)
    (before since : List Event) (first second : Event) : Prop where
  history : History.ofEvents domain interpreter (before ++ first :: since) =
    History.ofEvents domain interpreter (before ++ second :: since)
  predicts (policy : BuiltinPolicy) (hreads : policy.ReadsHistories) (sender : String)
    (isRule : Bool) :
    Policy.predict policy ⟨sender, before ++ first :: since, isRule⟩ domain interpreter =
      Policy.predict policy ⟨sender, before ++ second :: since, isRule⟩ domain interpreter
  learns (policy : BuiltinPolicy) (hreads : policy.ReadsHistories) (front back : List Tracker)
    (sender : String) (isRule : Bool) :
    policy.learned (front ++ ⟨sender, before ++ first :: since, isRule⟩ :: back) domain interpreter =
      policy.learned (front ++ ⟨sender, before ++ second :: since, isRule⟩ :: back) domain
        interpreter

namespace Event

/-- A message that the replay has to understand and the same message understood before: but for
entities the histories are the same, and they are interchangeable if and only if the message has no
entities or never shows. -/
theorem interchangeable_ofParse_iff (hkeeps : ∀ text, (interpreter.parse text).text = text)
    (domain : Domain) (before since : List Event) (text : String) :
    (Interchangeable domain interpreter before since (.utteredText text)
        (.ofParse (interpreter.parse text)) ↔
      (interpreter.parse text).entities = [] ∨
        ¬ (Replay.after interpreter (before ++ [.utteredText text])).Shows interpreter since) ∧
    (History.ofEvents domain interpreter (before ++ .utteredText text :: since)).withoutEntities =
      (History.ofEvents domain interpreter
        (before ++ .ofParse (interpreter.parse text) :: since)).withoutEntities := by
  have hiff :
      History.ofEvents domain interpreter (before ++ .ofParse (interpreter.parse text) :: since) =
        History.ofEvents domain interpreter (before ++ .utteredText text :: since) ↔ _ :=
    History.ofEvents_ofParse_eq_iff (hkeeps text) before since
  refine ⟨?_, (History.withoutEntities_ofParse (hkeeps text) before since).symm⟩
  constructor
  · exact fun hinter => hiff.1 hinter.history.symm
  · intro hunseen
    have hsame := (hiff.2 hunseen).symm
    constructor
    · exact hsame
    · exact fun policy hreads sender isRule => BuiltinPolicy.predict_congr hreads hsame
    · intro policy hreads front back sender isRule
      refine BuiltinPolicy.learned_congr hreads ?_ ?_ front back
      · exact hsame
      · rfl

theorem text_parse_ofMessages (text : String) : (Interpreter.ofMessages.parse text).text = text := by
  show (Interpreter.parseMessage text).text = text
  unfold Interpreter.parseMessage
  split <;> rfl

theorem interchangeable_greet :
    (∀ text, (Interpreter.ofMessages.parse text).text = text) ∧
      Interchangeable .empty .ofMessages [.executed listenAction] [] (.utteredText "/greet")
        (.ofParse (Interpreter.ofMessages.parse "/greet")) := by
  have hnone : (Interpreter.ofMessages.parse "/greet").entities = [] :=
    List.isEmpty_iff.1 (by decide +kernel)
  obtain ⟨hiff, -⟩ := interchangeable_ofParse_iff text_parse_ofMessages .empty
    [.executed listenAction] [] "/greet"
  exact ⟨text_parse_ofMessages, hiff.2 (Or.inl hnone)⟩

theorem not_interchangeable_city :
    ¬ Interchangeable .empty .ofMessages [.executed listenAction] []
      (.utteredText "/inform\x7b\"city\": \"Berlin\"\x7d")
      (.ofParse (Interpreter.ofMessages.parse "/inform\x7b\"city\": \"Berlin\"\x7d")) := by
  intro hinter
  exact absurd hinter.history (by decide +kernel)

end Event

end Dialogue
