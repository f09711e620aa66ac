import Dialogue.Proofs.ReplayParts
import Dialogue.Proofs.RuleChoice
import Dialogue.Proofs.StoryReplay

/-!
A restart starts the replay anew, but the states before it stay in the history. So a policy whose
view reaches beyond the restart may answer otherwise than in a conversation that starts there.
-/
namespace Dialogue

variable {domain : Domain} {interpreter : Interpreter} {before since : List Event}

/-! ### Answers that tell how far they look -/

namespace Prediction

def Tells (key : String) (priority : Int32) (turns : Nat → Prop) (prediction : Prediction) : Prop :=
  prediction = .abstain priority ∨
    ∃ n, turns n ∧ prediction.diagnostics.get? key = some (.ofNat n)

theorem eq_iff_of_tells (key : String) (limit : Nat) {priority : Int32}
    {first second : Prediction} (hfirst : first.Tells key priority (limit < ·))
    (hsecond : second.Tells key priority (· ≤ limit)) :
    first = second ↔ first = .abstain priority ∧ second = .abstain priority := by
  constructor
  · rintro rfl
    rcases hfirst with h | ⟨n, hmany, hn⟩
    · exact ⟨h, h⟩
    · rcases hsecond with h | ⟨m, hfew, hm⟩
      · exact ⟨h, h⟩
      · rw [hn] at hm
        simp only [Option.some.injEq, Json.ofNat, Json.int.injEq] at hm
        omega
  · rintro ⟨rfl, rfl⟩
    rfl

end Prediction

/-! ### Memories -/

namespace Memory

variable {memory : Memory} {front states : List TurnState} {priority : Int32}

theorem recallWindow_append (memory : Memory) (front : List TurnState) {n : Nat}
    (h : n ≤ states.length) :
    memory.recallWindow (front ++ states) n = memory.recallWindow states n := by
  unfold recallWindow
  rw [lastOf_append front h]
  simp only [List.length_append]
  split <;> split <;> first | rfl | omega

theorem tells_predictRecalled (domain : Domain) (priority : Int32) {turns : Nat → Prop}
    {recalled : Option (String × Nat)} (h : ∀ found ∈ recalled, turns found.2) :
    (predictRecalled domain priority recalled).Tells "memorized_turns" priority turns := by
  cases recalled with
  | none => exact Or.inl rfl
  | some found =>
    obtain ⟨action, n⟩ := found
    by_cases hknown : domain.hasAction action = true
    · obtain ⟨index, hindex⟩ := Domain.hasAction_iff.1 hknown
      rw [predictRecalled_of_index hindex]
      refine Or.inr ⟨n, h (action, n) rfl, ?_⟩
      simp
    · exact Or.inl (predictRecalled_of_unknown hknown)

/-- The window of all turns that count is longer than what there is since the restart. -/
def SpansRestart (memory : Memory) (front states : List TurnState) : Prop :=
  front ≠ [] ∧ states.length < memory.maxHistory.toNat

/-- A window that is longer than what there is since the restart recalls an action. -/
def RecallsAcross (memory : Memory) (front states : List TurnState) : Prop :=
  ∃ n, states.length < n ∧ n ≤ memory.maxHistory.toNat ∧
    memory.recallWindow (front ++ states) n ≠ none

theorem longest_append_of_not_spans (h : ¬ memory.SpansRestart front states) :
    memory.longest (front ++ states) = memory.longest states := by
  unfold longest
  cases front with
  | nil => rfl
  | cons first front =>
    have hreached : memory.maxHistory.toNat ≤ states.length :=
      Nat.not_lt.1 fun hlonger => h ⟨List.cons_ne_nil first front, hlonger⟩
    rw [List.length_append]
    omega

theorem lt_longest_append (h : memory.SpansRestart front states) :
    states.length < memory.longest (front ++ states) := by
  obtain ⟨hfront, hlonger⟩ := h
  have hsome := List.length_pos_iff.2 hfront
  unfold longest
  rw [List.length_append]
  omega

theorem longest_le (memory : Memory) (states : List TurnState) :
    memory.longest states ≤ states.length :=
  Nat.min_le_left _ _

theorem recallUpTo_append (memory : Memory) (front : List TurnState) {n : Nat}
    (h : n ≤ states.length) :
    memory.recallUpTo (front ++ states) n = memory.recallUpTo states n := by
  induction n with
  | zero => rfl
  | succ n ih =>
    rw [recallUpTo_succ, recallUpTo_succ, recallWindow_append memory front h,
      ih (Nat.le_of_succ_le h)]

theorem recallLongest_append_of_not_recalls (h : ¬ memory.RecallsAcross front states) :
    memory.recallLongest (front ++ states) = memory.recallLongest states := by
  have hle : memory.longest states ≤ memory.longest (front ++ states) := by
    unfold longest
    rw [List.length_append]
    omega
  rw [recallLongest_eq, recallLongest_eq, ← recallUpTo_append memory front (memory.longest_le states)]
  refine recallUpTo_of_none hle fun k hk hkle => ?_
  by_contra hrecalls
  unfold longest at hk hkle
  exact h ⟨k, by omega, by omega, hrecalls⟩

theorem recallLongest_append_of_recalls (h : memory.RecallsAcross front states) :
    ∃ found, memory.recallLongest (front ++ states) = some found ∧ states.length < found.2 := by
  obtain ⟨n, hlonger, hcounts, hrecalls⟩ := h
  have hreaches : n ≤ memory.longest (front ++ states) := by
    refine Nat.le_min.2 ⟨?_, hcounts⟩
    by_contra hshort
    exact hrecalls (if_pos (Or.inr (Nat.not_le.1 hshort)))
  obtain ⟨found, hfound, hle⟩ := exists_recallUpTo hreaches hrecalls
  exact ⟨found, hfound, Nat.lt_of_lt_of_le hlonger hle⟩

theorem recallLongest_le {found : String × Nat} (h : memory.recallLongest states = some found) :
    found.2 ≤ states.length :=
  Nat.le_trans (recallUpTo_le h) (memory.longest_le states)

end Memory

/-! ### Rules -/

namespace RulePolicy

variable {policy : RulePolicy} {front states : List TurnState}

/-- A rule with more conditions than there are states since the restart holds. -/
def HoldsAcross (policy : RulePolicy) (front states : List TurnState) : Prop :=
  ∃ rule ∈ policy.learned, states.length < rule.conditions.length ∧
    rule.holdsAt (front ++ states) = true

theorem holdsAt_append {rule : Rule} (front : List TurnState)
    (h : rule.conditions.length ≤ states.length) :
    rule.holdsAt (front ++ states) = rule.holdsAt states := by
  unfold Rule.holdsAt
  rw [lastOf_append front h, List.length_append, decide_eq_true (Nat.le_add_left_of_le h),
    decide_eq_true h]

theorem choose_append_of_not_holds (h : ¬ policy.HoldsAcross front states) :
    policy.choose (front ++ states) = policy.choose states := by
  unfold choose
  congr 1
  apply List.filter_congr
  intro rule hlearned
  by_cases hlength : rule.conditions.length ≤ states.length
  · exact holdsAt_append front hlength
  · have hacross : rule.holdsAt (front ++ states) ≠ true := fun hholds =>
      h ⟨rule, hlearned, Nat.not_le.1 hlength, hholds⟩
    have hsince : rule.holdsAt states ≠ true := by
      simp [Rule.holdsAt, hlength]
    rw [Bool.eq_false_iff.2 hacross, Bool.eq_false_iff.2 hsince]

theorem length_le_of_choose {rule : Rule} (h : policy.choose states = some rule) :
    rule.conditions.length ≤ states.length :=
  (choose_eq_some_iff.1 h).holds.1

theorem lt_of_choose_across (h : policy.HoldsAcross front states) {rule : Rule}
    (hchoose : policy.choose (front ++ states) = some rule) :
    states.length < rule.conditions.length := by
  obtain ⟨holding, hlearned, hlonger, hholds⟩ := h
  have hle := (choose_eq_some_iff.1 hchoose).length_le hlearned (Rule.holdsAt_iff.1 hholds)
  omega

theorem tells_predict (policy : RulePolicy) (tracker : Tracker) (domain : Domain)
    {turns : Nat → Prop} (h : ∀ rule,
      policy.choose (tracker.history domain interpreter).states = some rule →
        turns rule.conditions.length) :
    (policy.predict tracker domain interpreter).Tells "rule_turns" policy.priority turns := by
  cases hchoose : policy.choose (tracker.history domain interpreter).states with
  | none => exact Or.inl (predict_of_none hchoose)
  | some rule =>
    by_cases hknown : domain.hasAction rule.action = true
    · refine Or.inr ⟨_, h rule hchoose, ?_⟩
      rw [(predictsBy_of_known hchoose hknown).diagnostics]
      simp
    · exact Or.inl (predict_of_unknown hchoose hknown)

end RulePolicy

/-! ### Unexpected intents -/

namespace UnexpectedIntentPolicy

/-- The user spoke last, no turn of the user is known since the restart, and one is before it. -/
def HearsAcross (interpreter : Interpreter) (before since : List Event) : Prop :=
  since.getLast?.any Event.isUser = true ∧ turnsFrom interpreter conversationStart since = [] ∧
    turnsFrom interpreter conversationStart before ≠ []

theorem turnsFrom_restart (latest : String) (before since : List Event) :
    turnsFrom interpreter latest (before ++ .restarted :: since) =
      turnsFrom interpreter latest before ++ turnsFrom interpreter conversationStart since := by
  induction before generalizing latest with
  | nil => rfl
  | cons event before ih =>
    rw [List.cons_append]
    cases event with
    | userUttered text intent entities =>
      rw [turnsFrom, turnsFrom]
      split <;> simp [ih]
    | restarted => exact ih conversationStart
    | _ => exact ih _

theorem latestTurn_restart_of_not_hears (h : ¬ HearsAcross interpreter before since)
    (sender : String) :
    latestTurn (.ofEvents sender (before ++ .restarted :: since)) interpreter =
      latestTurn (.ofEvents sender since) interpreter := by
  show (if (before ++ .restarted :: since).getLast?.any Event.isUser then
      (turnsFrom interpreter conversationStart (before ++ .restarted :: since)).getLast? else none) =
    if since.getLast?.any Event.isUser then
      (turnsFrom interpreter conversationStart since).getLast? else none
  cases hlast : since.getLast? with
  | none =>
    rw [List.getLast?_eq_none_iff.1 hlast]
    simp [Event.isUser]
  | some last =>
    have hwhole : (before ++ .restarted :: since).getLast? = some last := by
      simp [List.getLast?_cons, hlast]
    rw [hwhole, turnsFrom_restart]
    by_cases huser : last.isUser = true
    · by_cases hturns : turnsFrom interpreter conversationStart since = []
      · have hbefore : turnsFrom interpreter conversationStart before = [] := by
          by_contra hturn
          exact h ⟨by simp [hlast, huser], hturns, hturn⟩
        rw [hbefore, List.nil_append]
      · rw [List.getLast?_append_of_ne_nil _ hturns]
    · simp [huser]

theorem latestTurn_of_hears (h : HearsAcross interpreter before since) (sender : String) :
    latestTurn (.ofEvents sender since) interpreter = none := by
  show (if since.getLast?.any Event.isUser then
    (turnsFrom interpreter conversationStart since).getLast? else none) = none
  rw [h.2.1]
  simp

theorem predict_of_latestTurn {policy : UnexpectedIntentPolicy} {tracker : Tracker}
    (h : latestTurn tracker interpreter = none) :
    policy.predict tracker domain interpreter = .ok (.abstain policy.priority) := by
  unfold predict
  rw [h]

end UnexpectedIntentPolicy

/-! ### All policies -/

namespace BuiltinPolicy

/-- What the policy looks at reaches back behind the restart. -/
def ReachesBack (policy : BuiltinPolicy) (domain : Domain) (interpreter : Interpreter)
    (before since : List Event) : Prop :=
  let front := (History.ofEvents domain interpreter before).turns.map Prod.fst
  let states := (History.ofEvents domain interpreter since).states
  match policy with
  | memoization policy => policy.memory.SpansRestart front states
  | augmentedMemoization policy => policy.memory.RecallsAcross front states
  | rule policy => policy.HoldsAcross front states
  | unexpectedIntent _ => UnexpectedIntentPolicy.HearsAcross interpreter before since
  | fallback _ => False

def Silent (policy : BuiltinPolicy) (domain : Domain) (interpreter : Interpreter)
    (tracker : Tracker) : Prop :=
  Policy.predict policy tracker domain interpreter = .ok (.abstain (Policy.priority policy))

end BuiltinPolicy

section

variable (domain interpreter before since) (sender : String)

theorem Tracker.states_restart :
    ((Tracker.ofEvents sender (before ++ .restarted :: since)).history domain interpreter).states =
      (History.ofEvents domain interpreter before).turns.map Prod.fst ++
        (History.ofEvents domain interpreter since).states :=
  History.states_restart before since

theorem MemoizationPolicy.predict_restart (policy : MemoizationPolicy)
    (h : ¬ BuiltinPolicy.ReachesBack (.memoization policy) domain interpreter before since) :
    policy.predict (.ofEvents sender (before ++ .restarted :: since)) domain interpreter =
      policy.predict (.ofEvents sender since) domain interpreter := by
  have hlongest := Memory.longest_append_of_not_spans h
  unfold predict
  rw [Tracker.states_restart]
  dsimp only
  rw [hlongest, Memory.recallWindow_append _ _ (Memory.longest_le _ _)]
  rfl

theorem MemoizationPolicy.predict_restart_iff (policy : MemoizationPolicy)
    (h : BuiltinPolicy.ReachesBack (.memoization policy) domain interpreter before since) :
    policy.predict (.ofEvents sender (before ++ .restarted :: since)) domain interpreter =
        policy.predict (.ofEvents sender since) domain interpreter ↔
      policy.predict (.ofEvents sender (before ++ .restarted :: since)) domain interpreter =
          .abstain policy.priority ∧
        policy.predict (.ofEvents sender since) domain interpreter = .abstain policy.priority := by
  apply Prediction.eq_iff_of_tells "memorized_turns"
    (History.ofEvents domain interpreter since).states.length
  · apply Memory.tells_predictRecalled
    rw [Tracker.states_restart]
    intro found hfound
    obtain ⟨action, _, rfl⟩ := Option.map_eq_some_iff.1 hfound
    exact Memory.lt_longest_append h
  · apply Memory.tells_predictRecalled
    intro found hfound
    obtain ⟨action, _, rfl⟩ := Option.map_eq_some_iff.1 hfound
    exact Memory.longest_le _ _

theorem AugmentedMemoizationPolicy.predict_restart (policy : AugmentedMemoizationPolicy)
    (h : ¬ BuiltinPolicy.ReachesBack (.augmentedMemoization policy) domain interpreter before since) :
    policy.predict (.ofEvents sender (before ++ .restarted :: since)) domain interpreter =
      policy.predict (.ofEvents sender since) domain interpreter := by
  unfold predict
  rw [Tracker.states_restart]
  dsimp only
  rw [Memory.recallLongest_append_of_not_recalls h]
  rfl

theorem AugmentedMemoizationPolicy.predict_restart_iff (policy : AugmentedMemoizationPolicy)
    (h : BuiltinPolicy.ReachesBack (.augmentedMemoization policy) domain interpreter before since) :
    policy.predict (.ofEvents sender (before ++ .restarted :: since)) domain interpreter =
        policy.predict (.ofEvents sender since) domain interpreter ↔
      policy.predict (.ofEvents sender (before ++ .restarted :: since)) domain interpreter =
          .abstain policy.priority ∧
        policy.predict (.ofEvents sender since) domain interpreter = .abstain policy.priority := by
  apply Prediction.eq_iff_of_tells "memorized_turns"
    (History.ofEvents domain interpreter since).states.length
  · obtain ⟨found, hfound, hlonger⟩ := Memory.recallLongest_append_of_recalls h
    apply Memory.tells_predictRecalled
    rw [Tracker.states_restart, hfound]
    intro other hother
    cases hother
    exact hlonger
  · apply Memory.tells_predictRecalled
    exact fun found hfound => Memory.recallLongest_le hfound

theorem RulePolicy.predict_restart (policy : RulePolicy)
    (h : ¬ BuiltinPolicy.ReachesBack (.rule policy) domain interpreter before since) :
    policy.predict (.ofEvents sender (before ++ .restarted :: since)) domain interpreter =
      policy.predict (.ofEvents sender since) domain interpreter := by
  apply predict_of_choose_eq
  rw [Tracker.states_restart]
  exact choose_append_of_not_holds h

theorem RulePolicy.predict_restart_iff (policy : RulePolicy)
    (h : BuiltinPolicy.ReachesBack (.rule policy) domain interpreter before since) :
    policy.predict (.ofEvents sender (before ++ .restarted :: since)) domain interpreter =
        policy.predict (.ofEvents sender since) domain interpreter ↔
      policy.predict (.ofEvents sender (before ++ .restarted :: since)) domain interpreter =
          .abstain policy.priority ∧
        policy.predict (.ofEvents sender since) domain interpreter = .abstain policy.priority := by
  apply Prediction.eq_iff_of_tells "rule_turns"
    (History.ofEvents domain interpreter since).states.length
  · apply tells_predict
    rw [Tracker.states_restart]
    exact fun rule hchoose => lt_of_choose_across h hchoose
  · apply tells_predict
    exact fun rule hchoose => length_le_of_choose hchoose

theorem UnexpectedIntentPolicy.predict_restart (policy : UnexpectedIntentPolicy)
    (h : ¬ BuiltinPolicy.ReachesBack (.unexpectedIntent policy) domain interpreter before since) :
    policy.predict (.ofEvents sender (before ++ .restarted :: since)) domain interpreter =
      policy.predict (.ofEvents sender since) domain interpreter := by
  unfold predict
  rw [latestTurn_restart_of_not_hears h]

theorem FallbackPolicy.predict_restart (policy : FallbackPolicy) :
    policy.predict (.ofEvents sender (before ++ .restarted :: since)) domain interpreter =
      policy.predict (.ofEvents sender since) domain interpreter := by
  have hsituation : (Tracker.ofEvents sender (before ++ .restarted :: since)).situation =
      (Tracker.ofEvents sender since).situation := Situation.after_restart before since
  unfold predict Tracker.latestAction Tracker.latestMessage
  rw [hsituation]

end

namespace BuiltinPolicy

/-- After a restart a policy answers as in a conversation that starts there, unless it looks back
behind the restart. Then it does so only where it has nothing to say on either side. -/
theorem predict_restart_eq_iff (policy : BuiltinPolicy) (domain : Domain)
    (interpreter : Interpreter) (before since : List Event) (sender : String) :
    Policy.predict policy (.ofEvents sender (before ++ .restarted :: since)) domain interpreter =
        Policy.predict policy (.ofEvents sender since) domain interpreter ↔
      (policy.ReachesBack domain interpreter before since →
        policy.Silent domain interpreter (.ofEvents sender (before ++ .restarted :: since)) ∧
          policy.Silent domain interpreter (.ofEvents sender since)) := by
  by_cases hreaches : policy.ReachesBack domain interpreter before since
  · rw [forall_prop_of_true hreaches]
    cases policy with
    | memoization policy =>
      have hiff := policy.predict_restart_iff domain interpreter before since sender hreaches
      simpa only [Silent, Policy.predict, Policy.priority, Except.ok.injEq] using hiff
    | augmentedMemoization policy =>
      have hiff := policy.predict_restart_iff domain interpreter before since sender hreaches
      simpa only [Silent, Policy.predict, Policy.priority, Except.ok.injEq] using hiff
    | rule policy =>
      have hiff := policy.predict_restart_iff domain interpreter before since sender hreaches
      simpa only [Silent, Policy.predict, Policy.priority, Except.ok.injEq] using hiff
    | unexpectedIntent policy =>
      have hsince : Silent (.unexpectedIntent policy) domain interpreter (.ofEvents sender since) := by
        have hnone := UnexpectedIntentPolicy.latestTurn_of_hears hreaches sender
        exact congrArg (Except.mapError _) (UnexpectedIntentPolicy.predict_of_latestTurn hnone)
      constructor
      · exact fun heq => ⟨heq.trans hsince, hsince⟩
      · exact fun hsilent => hsilent.1.trans hsilent.2.symm
    | fallback policy => exact absurd hreaches id
  · refine iff_of_true ?_ fun h => absurd h hreaches
    cases policy with
    | memoization policy => exact congrArg Except.ok (policy.predict_restart _ _ _ _ _ hreaches)
    | augmentedMemoization policy =>
      exact congrArg Except.ok (policy.predict_restart _ _ _ _ _ hreaches)
    | rule policy => exact congrArg Except.ok (policy.predict_restart _ _ _ _ _ hreaches)
    | unexpectedIntent policy =>
      exact congrArg (Except.mapError _) (policy.predict_restart _ _ _ _ _ hreaches)
    | fallback policy => exact congrArg (Except.mapError _) (policy.predict_restart _ _ _ _ _)

/-- The assistant listened, then the conversation was restarted and the greeting begins. The policy
has learned how the greeting goes on, and recalls it only without the restart. -/
theorem not_forgets_greeting :
    ¬ ∀ (policy : BuiltinPolicy) (domain : Domain) (interpreter : Interpreter)
      (before since : List Event) (sender : String),
      Policy.predict policy (.ofEvents sender (before ++ .restarted :: since)) domain interpreter =
        Policy.predict policy (.ofEvents sender since) domain interpreter := by
  intro hforgets
  let learned := Ensemble.rehearse .default [Ensemble.greeting] Ensemble.greetingDomain .ofMessages
  have hrecalls : learned.memory.recallAfter Ensemble.greetingDomain .ofMessages
      (Ensemble.greeting.events.take 2) = some "utter_greet" :=
    Ensemble.recallAfter_of_undisputed (by decide) Ensemble.rehearsed_greeting List.mem_cons_self
      ⟨_, _, rfl, rfl⟩ Ensemble.undisputed_greeting
  have hsame := Except.ok.inj (hforgets (.memoization learned) Ensemble.greetingDomain .ofMessages
    [.executed listenAction] (Ensemble.greeting.events.take 2) "user")
  have hreaches : ReachesBack (.memoization learned) Ensemble.greetingDomain .ofMessages
      [.executed listenAction] (Ensemble.greeting.events.take 2) :=
    ⟨List.cons_ne_nil _ _, by decide⟩
  obtain ⟨-, hsilent⟩ := (learned.predict_restart_iff _ _ _ _ _ hreaches).1 hsame
  rw [Ensemble.predict_eq_predictRecalled, hrecalls] at hsilent
  have hscores := congrArg Prediction.scores hsilent
  rw [Option.map_some, Ensemble.scores_predictRecalled
    (show Ensemble.greetingDomain.index? "utter_greet" = some 11 by decide)] at hscores
  exact absurd (congrArg List.length hscores) (by decide)

end BuiltinPolicy

end Dialogue
