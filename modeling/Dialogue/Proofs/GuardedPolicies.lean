import Dialogue.Policy.Builtin
import Dialogue.Proofs.OneHot
import Dialogue.Proofs.Slices

/-!
The policies that come with the library, with every index and every slice checked. No check fails,
whatever the policies have learned and from whichever conversations.
-/
namespace Dialogue

theorem History.lt_length_states {history : History} {action : String} {i : Nat}
    (h : (action, i) ∈ history.actions.zipIdx) : i + 1 ≤ history.states.length := by
  obtain ⟨hlt, _⟩ := List.getElem?_eq_some_iff.1 (List.mem_zipIdx_iff_getElem?.1 h)
  rw [length_states]
  omega

theorem History.contexts_eq (history : History) : history.contexts =
    history.actions.zipIdx.map fun (action, i) => (history.states.take (i + 1), action) := by
  unfold contexts actions
  rw [List.zipIdx_map, List.map_map]
  rfl

namespace Prediction

def ofAction? (domain : Domain) (action : String) (score : Float) :
    Option (Except DomainError Prediction) :=
  match domain.index action with
  | .error error => some (.error error)
  | .ok index => do
    let scores ← put? (List.replicate domain.size 0.0) index score
    return .ok { scores, policyName := none, priority := defaultPriority }

theorem ofAction?_eq (domain : Domain) (action : String) (score : Float) :
    ofAction? domain action score = some (ofAction domain action score) := by
  unfold ofAction? ofAction
  cases hindex : domain.index action with
  | error error => rfl
  | ok index =>
    have hlt := Domain.index?_lt (Domain.index_eq_ok_iff.1 hindex)
    dsimp only
    rw [put?_eq (by rwa [List.length_replicate])]
    rfl

end Prediction

/-! ### Memories -/

namespace Memory

def windows? (memory : Memory) (everyLength : Bool) (states : List TurnState) (stop : Nat) :
    Option (List (List TurnState)) :=
  let longest := min stop memory.maxHistory.toNat
  let shortest := if everyLength then 1 else longest
  (List.range' shortest (longest + 1 - shortest)).mapM (before? states stop)

def lessonsOf? (memory : Memory) (everyLength : Bool) (history : History) :
    Option (List (List TurnState × String)) := do
  let lessons ← history.actions.zipIdx.mapM fun (action, i) => do
    return (← memory.windows? everyLength history.states (i + 1)).map (·, action)
  return lessons.flatten

def train? (memory : Memory) (everyLength : Bool) (trackers : List Tracker) (domain : Domain)
    (interpreter : Interpreter) : Option (Memory × List Warning) := do
  let lessons ← (stories trackers).mapM fun tracker =>
    memory.lessonsOf? everyLength (tracker.history domain interpreter)
  let lookup := lessons.flatten.foldl
    (fun lookup lesson => memorize lookup lesson.1 lesson.2) ∅
  return ({ memory with lookup }, (stories trackers).flatMap (·.warnings interpreter))

def recallWindow? (memory : Memory) (states : List TurnState) (n : Nat) :
    Option (Option String) :=
  if n = 0 ∨ states.length < n then some none
  else do
    let window ← before? states states.length n
    return (memory.lookup.get? (windowKey window)).join

def recallLongest? (memory : Memory) (states : List TurnState) :
    Option (Option (String × Nat)) :=
  (List.range (memory.longest states)).reverse.findSomeM? fun i => do
    match ← memory.recallWindow? states (i + 1) with
    | none => return none
    | some action =>
      let _forgotten ← minus? (memory.longest states) (i + 1)
      return some (action, i + 1)

def predictRecalled? (domain : Domain) (priority : Int32) :
    Option (String × Nat) → Option Prediction
  | none => some (.abstain priority)
  | some (action, turns) => do
    match ← Prediction.ofAction? domain action 1.0 with
    | .ok prediction =>
      return { prediction with priority }.withDiagnostic "memorized_turns" (.ofNat turns)
    | .error _ => return .abstain priority

/-- No window begins before the conversation. -/
theorem windows?_eq (memory : Memory) (everyLength : Bool) {states : List TurnState} {stop : Nat}
    (h : stop ≤ states.length) : memory.windows? everyLength states stop =
      some (memory.windows everyLength (states.take stop)) := by
  unfold windows? windows longest
  rw [List.length_take_of_le h]
  apply mapM_eq_some
  intro n hn
  -- A history of length zero leaves no window, or the empty one where only the longest counts.
  have hle := (List.mem_range'_1.1 hn).2
  have hshortest : (if everyLength then 1 else min stop memory.maxHistory.toNat) ≤ n :=
    (List.mem_range'_1.1 hn).1
  exact before?_eq (by omega) h

theorem lessonsOf?_eq (memory : Memory) (everyLength : Bool) (history : History) :
    memory.lessonsOf? everyLength history = some (history.contexts.flatMap fun (states, action) =>
      (memory.windows everyLength states).map (·, action)) := by
  have hlessons : history.actions.zipIdx.mapM (fun (action, i) => do
      return (← memory.windows? everyLength history.states (i + 1)).map (·, action)) =
      some (history.actions.zipIdx.map fun (action, i) =>
        (memory.windows everyLength (history.states.take (i + 1))).map (·, action)) := by
    apply mapM_eq_some
    rintro ⟨action, i⟩ hmem
    dsimp only
    rw [windows?_eq memory everyLength (History.lt_length_states hmem)]
    rfl
  unfold lessonsOf?
  rw [hlessons, History.contexts_eq, List.flatMap_map, List.flatMap_def]
  rfl

theorem train?_eq (memory : Memory) (everyLength : Bool) (trackers : List Tracker)
    (domain : Domain) (interpreter : Interpreter) :
    memory.train? everyLength trackers domain interpreter =
      some (memory.train everyLength trackers domain interpreter) := by
  unfold train? train lessons
  rw [mapM_eq_some fun tracker _ => memory.lessonsOf?_eq everyLength _, List.flatMap_def]
  rfl

theorem recallWindow?_eq (memory : Memory) (states : List TurnState) (n : Nat) :
    memory.recallWindow? states n = some (memory.recallWindow states n) := by
  unfold recallWindow? recallWindow
  by_cases h : n = 0 ∨ states.length < n
  · rw [if_pos h, if_pos h]
  · rw [if_neg h, if_neg h, before?_length (by omega)]
    rfl

theorem recallLongest?_eq (memory : Memory) (states : List TurnState) :
    memory.recallLongest? states = some (memory.recallLongest states) := by
  unfold recallLongest? recallLongest
  apply findSomeM?_eq_some
  intro i hi
  have hle : i + 1 ≤ memory.longest states := List.mem_range.1 (List.mem_reverse.1 hi)
  rw [recallWindow?_eq, minus?_eq hle]
  cases memory.recallWindow states (i + 1) with
  | none => rfl
  | some action => rfl

theorem predictRecalled?_eq (domain : Domain) (priority : Int32)
    (recalled : Option (String × Nat)) : predictRecalled? domain priority recalled =
      some (predictRecalled domain priority recalled) := by
  cases recalled with
  | none => rfl
  | some found =>
    obtain ⟨action, turns⟩ := found
    rw [predictRecalled?, predictRecalled, Prediction.ofAction?_eq]
    cases Prediction.ofAction domain action 1.0 with
    | error error => rfl
    | ok prediction => rfl

end Memory

/-! ### Rules -/

namespace Rule

def holdsAt? (rule : Rule) (states : List TurnState) : Option Bool :=
  if rule.conditions.length ≤ states.length then do
    let latest ← before? states states.length rule.conditions.length
    return (rule.conditions.zip latest).all fun (condition, state) => conditionMet condition state
  else some false

def occursIn? (rule : Rule) (history : History) : Option Bool :=
  history.actions.zipIdx.anyM fun (action, i) =>
    if action == rule.action && rule.conditions.length ≤ i + 1 then do
      return (← before? history.states (i + 1) rule.conditions.length) == rule.conditions
    else some false

def ofHistory? (history : History) : Option (List Rule) :=
  let first := if history.states.head?.any TurnState.isStart then 1 else 0
  (history.actions.zipIdx.drop first).mapM fun (action, i) => do
    return ⟨← slice? history.states first (i + 1), action, false⟩

def learn? (trackers : List Tracker) (domain : Domain) (interpreter : Interpreter) :
    Option (List Rule) := do
  let learned ← (rules trackers).mapM fun tracker =>
    ofHistory? (tracker.history domain interpreter)
  return distinct learned.flatten

def markStories? (histories : List History) (rule : Rule) : Option Rule := do
  return { rule with inStories := rule.inStories || (← histories.anyM rule.occursIn?) }

theorem holdsAt?_eq (rule : Rule) (states : List TurnState) :
    rule.holdsAt? states = some (rule.holdsAt states) := by
  unfold holdsAt? holdsAt
  by_cases h : rule.conditions.length ≤ states.length
  · rw [if_pos h, before?_length h, decide_eq_true h, Bool.true_and]
    rfl
  · rw [if_neg h, decide_eq_false h, Bool.false_and]

theorem occursIn?_eq (rule : Rule) (history : History) :
    rule.occursIn? history = some (rule.occursIn history) := by
  unfold occursIn? occursIn
  rw [History.contexts_eq, List.any_map]
  apply anyM_eq_some
  rintro ⟨action, i⟩ hmem
  have hi := History.lt_length_states hmem
  dsimp only [Function.comp_apply]
  rw [List.length_take_of_le hi]
  by_cases h : (action == rule.action && decide (rule.conditions.length ≤ i + 1)) = true
  · have hle : rule.conditions.length ≤ i + 1 := of_decide_eq_true (Bool.and_eq_true_iff.1 h).2
    rw [if_pos h, h, before?_eq hle hi, Bool.true_and]
    rfl
  · rw [if_neg h, Bool.eq_false_iff.2 h, Bool.false_and]

theorem le_of_mem_drop {items : List α} {first i : Nat} {item : α}
    (h : (item, i) ∈ items.zipIdx.drop first) : first ≤ i := by
  obtain ⟨j, hj⟩ := List.getElem?_of_mem h
  rw [List.getElem?_drop, List.getElem?_zipIdx, Option.map_eq_some_iff] at hj
  obtain ⟨_, _, hpair⟩ := hj
  have hi := congrArg Prod.snd hpair
  dsimp only at hi
  omega

theorem ofHistory?_eq (history : History) : ofHistory? history = some (ofHistory history) := by
  unfold ofHistory? ofHistory
  dsimp only
  rw [History.contexts_eq, ← List.map_drop, List.map_map]
  apply mapM_eq_some
  rintro ⟨action, i⟩ hmem
  have hi := History.lt_length_states (List.mem_of_mem_drop hmem)
  have hfirst := le_of_mem_drop hmem
  dsimp only
  rw [slice?_eq (by omega) hi]
  rfl

theorem learn?_eq (trackers : List Tracker) (domain : Domain) (interpreter : Interpreter) :
    learn? trackers domain interpreter = some (learn trackers domain interpreter) := by
  unfold learn? learn
  rw [mapM_eq_some fun tracker _ => ofHistory?_eq _, List.flatMap_def]
  rfl

theorem markStories?_eq (histories : List History) (rule : Rule) :
    markStories? histories rule = some (markStories histories rule) := by
  unfold markStories? markStories
  rw [anyM_eq_some fun history _ => rule.occursIn?_eq history]
  rfl

end Rule

namespace RulePolicy

def train? (policy : RulePolicy) (trackers : List Tracker) (domain : Domain)
    (interpreter : Interpreter) : Option (RulePolicy × List Warning) := do
  let histories := (stories trackers).map (·.history domain interpreter)
  let learned ← (← Rule.learn? trackers domain interpreter).mapM (Rule.markStories? histories)
  let heard := (rules trackers ++ stories trackers).flatMap (·.warnings interpreter)
  let (learned, noticed) :=
    if policy.dropsContradictions then Rule.dropContradictions learned else (learned, [])
  return ({ policy with learned }, heard ++ noticed)

def choose? (policy : RulePolicy) (states : List TurnState) : Option (Option Rule) :=
  policy.learned.foldlM (fun best rule => do
    return if ← rule.holdsAt? states then longer best rule else best) none

def predict? (policy : RulePolicy) (tracker : Tracker) (domain : Domain)
    (interpreter : Interpreter) : Option Prediction := do
  match ← policy.choose? (tracker.history domain interpreter).states with
  | none => return .abstain policy.priority
  | some rule =>
    match ← Prediction.ofAction? domain rule.action 1.0 with
    | .error _ => return .abstain policy.priority
    | .ok prediction =>
      return { prediction with
        priority := policy.priority
        isNoUser := !rule.dependsOnUser
        hideRuleTurn := !rule.inStories }.withDiagnostic
          "rule_turns" (.ofNat rule.conditions.length)

theorem train?_eq (policy : RulePolicy) (trackers : List Tracker) (domain : Domain)
    (interpreter : Interpreter) : policy.train? trackers domain interpreter =
      some (policy.train trackers domain interpreter) := by
  unfold train? train
  dsimp only
  rw [Rule.learn?_eq, Option.bind_eq_bind, Option.bind_some,
    mapM_eq_some fun rule _ => Rule.markStories?_eq _ rule]
  rfl

theorem choose?_eq (policy : RulePolicy) (states : List TurnState) :
    policy.choose? states = some (policy.choose states) := by
  unfold choose? choose
  rw [List.foldl_filter]
  apply foldlM_eq_some
  intro best rule _
  rw [Rule.holdsAt?_eq]
  rfl

theorem predict?_eq (policy : RulePolicy) (tracker : Tracker) (domain : Domain)
    (interpreter : Interpreter) : policy.predict? tracker domain interpreter =
      some (policy.predict tracker domain interpreter) := by
  unfold predict? predict
  rw [choose?_eq, Option.bind_eq_bind, Option.bind_some]
  cases policy.choose (tracker.history domain interpreter).states with
  | none => rfl
  | some rule =>
    dsimp only
    rw [Prediction.ofAction?_eq]
    cases Prediction.ofAction domain rule.action 1.0 with
    | error error => rfl
    | ok prediction => rfl

end RulePolicy

/-! ### The other policies -/

def MemoizationPolicy.predict? (policy : MemoizationPolicy) (tracker : Tracker) (domain : Domain)
    (interpreter : Interpreter) : Option Prediction := do
  let states := (tracker.history domain interpreter).states
  let longest := policy.memory.longest states
  let recalled ← policy.memory.recallWindow? states longest
  Memory.predictRecalled? domain policy.priority (recalled.map (·, longest))

theorem MemoizationPolicy.predict?_eq (policy : MemoizationPolicy) (tracker : Tracker)
    (domain : Domain) (interpreter : Interpreter) : policy.predict? tracker domain interpreter =
      some (policy.predict tracker domain interpreter) := by
  unfold predict? predict
  dsimp only
  rw [Memory.recallWindow?_eq]
  exact Memory.predictRecalled?_eq domain policy.priority _

def AugmentedMemoizationPolicy.predict? (policy : AugmentedMemoizationPolicy) (tracker : Tracker)
    (domain : Domain) (interpreter : Interpreter) : Option Prediction := do
  let states := (tracker.history domain interpreter).states
  Memory.predictRecalled? domain policy.priority (← policy.memory.recallLongest? states)

theorem AugmentedMemoizationPolicy.predict?_eq (policy : AugmentedMemoizationPolicy)
    (tracker : Tracker) (domain : Domain) (interpreter : Interpreter) :
    policy.predict? tracker domain interpreter =
      some (policy.predict tracker domain interpreter) := by
  unfold predict? predict
  dsimp only
  rw [Memory.recallLongest?_eq]
  exact Memory.predictRecalled?_eq domain policy.priority _

def UnexpectedIntentPolicy.predict? (policy : UnexpectedIntentPolicy) (tracker : Tracker)
    (domain : Domain) (interpreter : Interpreter) : Option (Except DomainError Prediction) :=
  match latestTurn tracker interpreter with
  | none => return .ok (.abstain policy.priority)
  | some (action, intent) =>
    if policy.isUnlikely action intent then do
      return (← Prediction.ofAction? domain unlikelyIntentAction 1.0).map fun prediction =>
        ({ prediction with priority := policy.priority }.withDiagnostic
          "unlikely_intent" (.str intent)).withDiagnostic "after_action" (.str action)
    else return .ok (.abstain policy.priority)

theorem UnexpectedIntentPolicy.predict?_eq (policy : UnexpectedIntentPolicy) (tracker : Tracker)
    (domain : Domain) (interpreter : Interpreter) : policy.predict? tracker domain interpreter =
      some (policy.predict tracker domain interpreter) := by
  unfold predict? predict
  cases latestTurn tracker interpreter with
  | none => rfl
  | some turn =>
    obtain ⟨action, intent⟩ := turn
    dsimp only
    by_cases hunlikely : policy.isUnlikely action intent = true
    · rw [if_pos hunlikely, if_pos hunlikely, Prediction.ofAction?_eq]
      cases Prediction.ofAction domain unlikelyIntentAction 1.0 with
      | error error => rfl
      | ok prediction => rfl
    · rw [if_neg hunlikely, if_neg hunlikely]
      rfl

def FallbackPolicy.predict? (policy : FallbackPolicy) (tracker : Tracker) (domain : Domain)
    (interpreter : Interpreter) : Option (Except DomainError Prediction) :=
  if tracker.latestAction = some listenAction then
    match tracker.latestMessage.bind fun m => reason? policy.config (understood interpreter m) with
    | some reason => do
      return (← Prediction.ofAction? domain policy.config.action 1.0).map fun prediction =>
        { prediction with priority := policy.priority }.withDiagnostic
          "fallback_reason" (.str reason)
    | none => return .ok (.abstain policy.priority)
  else return .ok (.abstain policy.priority)

theorem FallbackPolicy.predict?_eq (policy : FallbackPolicy) (tracker : Tracker) (domain : Domain)
    (interpreter : Interpreter) : policy.predict? tracker domain interpreter =
      some (policy.predict tracker domain interpreter) := by
  unfold predict? predict
  by_cases hlisten : tracker.latestAction = some listenAction
  · rw [if_pos hlisten, if_pos hlisten]
    cases tracker.latestMessage.bind fun m =>
        reason? policy.config (understood interpreter m) with
    | none => rfl
    | some reason =>
      dsimp only
      rw [Prediction.ofAction?_eq]
      cases Prediction.ofAction domain policy.config.action 1.0 with
      | error error => rfl
      | ok prediction => rfl
  · rw [if_neg hlisten, if_neg hlisten]
    rfl

namespace BuiltinPolicy

def predict? (policy : BuiltinPolicy) (tracker : Tracker) (domain : Domain)
    (interpreter : Interpreter) : Option (Except Error Prediction) := do
  match policy with
  | memoization p => return .ok (← p.predict? tracker domain interpreter)
  | augmentedMemoization p => return .ok (← p.predict? tracker domain interpreter)
  | rule p => return .ok (← p.predict? tracker domain interpreter)
  | unexpectedIntent p => return (← p.predict? tracker domain interpreter).mapError .domain
  | fallback p => return (← p.predict? tracker domain interpreter).mapError .domain

def train? (policy : BuiltinPolicy) (trackers : List Tracker) (domain : Domain)
    (interpreter : Interpreter) : Option (BuiltinPolicy × List Warning) := do
  match policy with
  | memoization p =>
    let (memory, warnings) ← p.memory.train? false trackers domain interpreter
    return (memoization { p with memory }, warnings)
  | augmentedMemoization p =>
    let (memory, warnings) ← p.memory.train? true trackers domain interpreter
    return (augmentedMemoization { p with memory }, warnings)
  | rule p =>
    let (trained, warnings) ← p.train? trackers domain interpreter
    return (rule trained, warnings)
  | unexpectedIntent p =>
    return (unexpectedIntent (p.train trackers interpreter),
      (stories trackers).flatMap (·.warnings interpreter))
  | fallback p => return (fallback p, [])

theorem predict?_eq (policy : BuiltinPolicy) (tracker : Tracker) (domain : Domain)
    (interpreter : Interpreter) : policy.predict? tracker domain interpreter =
      some (Policy.predict policy tracker domain interpreter) := by
  unfold predict?
  cases policy with
  | memoization p => dsimp only; rw [p.predict?_eq]; rfl
  | augmentedMemoization p => dsimp only; rw [p.predict?_eq]; rfl
  | rule p => dsimp only; rw [p.predict?_eq]; rfl
  | unexpectedIntent p => dsimp only; rw [p.predict?_eq]; rfl
  | fallback p => dsimp only; rw [p.predict?_eq]; rfl

theorem train?_eq (policy : BuiltinPolicy) (trackers : List Tracker) (domain : Domain)
    (interpreter : Interpreter) :
    ∃ outcome, policy.train? trackers domain interpreter = some outcome ∧
      Policy.train policy trackers domain interpreter = .ok outcome := by
  unfold train?
  cases policy with
  | memoization p => dsimp only; rw [p.memory.train?_eq]; exact ⟨_, rfl, rfl⟩
  | augmentedMemoization p => dsimp only; rw [p.memory.train?_eq]; exact ⟨_, rfl, rfl⟩
  | rule p => dsimp only; rw [p.train?_eq]; exact ⟨_, rfl, rfl⟩
  | unexpectedIntent p => exact ⟨_, rfl, rfl⟩
  | fallback p => exact ⟨_, rfl, rfl⟩

end BuiltinPolicy

end Dialogue
