import Dialogue.Policy.Builtin
import Dialogue.Proofs.StateText

namespace Dialogue

open Json

namespace Memory

theorem asAction?_ofOption (action : Option String) :
    asAction? (Json.ofOption .str action) = some action := by
  cases action <;> rfl

theorem ofJson?_toJson (memory : Memory) : ofJson? memory.toJson = some memory := by
  have hrecord : memory.toJson.record? ["max_history", "lookup"] 2 =
      some [some (ofUInt64 memory.maxHistory), some (.obj (memory.lookup.entries.map
        fun entry => (entry.1, Json.ofOption .str entry.2)))] :=
    record?_members [("max_history", some _), ("lookup", some _)] 2 (by simp)
  unfold ofJson?
  rw [hrecord]
  simp only [Option.bind_eq_bind, Option.bind_some, field, asUInt64?_ofUInt64,
    asMap?_entries asAction?_ofOption]
  rfl

theorem legible_toJson (memory : Memory) (depth : Nat) : Legible (depth + 2) memory.toJson := by
  have hlookup : Legible (depth + 1) (.obj (memory.lookup.entries.map
      fun entry => (entry.1, Json.ofOption .str entry.2))) := by
    refine .obj fun member hmember => ?_
    obtain ⟨⟨key, action⟩, _, rfl⟩ := List.mem_map.1 hmember
    cases action with
    | none => exact .null
    | some name => exact .str name
  refine .obj ?_
  simp only [List.forall_mem_cons]
  exact ⟨legible_ofUInt64 _, hlookup, List.forall_mem_nil _⟩

end Memory

namespace MemoizationPolicy

theorem ofJson?_toJson (policy : MemoizationPolicy) : ofJson? policy.toJson = some policy := by
  have hrecord : policy.toJson.record? ["priority", "memory"] 2 =
      some [some (ofInt32 policy.priority), some policy.memory.toJson] :=
    record?_members [("priority", some _), ("memory", some _)] 2 (by simp)
  unfold ofJson?
  rw [hrecord]
  simp only [Option.bind_eq_bind, Option.bind_some, field, asInt32?_ofInt32, Memory.ofJson?_toJson]
  rfl

theorem legible_toJson (policy : MemoizationPolicy) (depth : Nat) :
    Legible (depth + 3) policy.toJson := by
  refine .obj ?_
  simp only [List.forall_mem_cons]
  exact ⟨legible_ofInt32 _, policy.memory.legible_toJson depth, List.forall_mem_nil _⟩

end MemoizationPolicy

namespace AugmentedMemoizationPolicy

theorem ofJson?_toJson (policy : AugmentedMemoizationPolicy) :
    ofJson? policy.toJson = some policy := by
  unfold ofJson? toJson
  rw [MemoizationPolicy.ofJson?_toJson]
  rfl

end AugmentedMemoizationPolicy

namespace Rule

theorem ofJson?_toJson (rule : Rule) : ofJson? rule.toJson = some rule := by
  have hrecord : rule.toJson.record? ["conditions", "action", "in_stories"] 2 =
      some [some (.arr (rule.conditions.map TurnState.toJson)), some (.str rule.action),
        some (.bool rule.inStories)] :=
    record?_members [("conditions", some _), ("action", some _), ("in_stories", some _)] 2 (by simp)
  have hconditions := asList?_map fun state (_ : state ∈ rule.conditions) =>
    TurnState.ofJson?_toJson state
  unfold ofJson?
  rw [hrecord]
  simp only [Option.bind_eq_bind, Option.bind_some, field, hconditions, asString?, defaultField,
    asBool?]
  rfl

theorem legible_toJson (rule : Rule) (depth : Nat) : Legible (depth + 5) rule.toJson := by
  refine .obj ?_
  simp only [List.forall_mem_cons]
  exact ⟨TurnState.legible_window rule.conditions depth, .str _, .bool _, List.forall_mem_nil _⟩

end Rule

namespace RulePolicy

theorem configOfJson?_configToJson (policy : RulePolicy) :
    configOfJson? policy.configToJson = some policy.dropsContradictions := by
  have hrecord : policy.configToJson.record? ["drop_contradicting_rules"] 0 =
      some [some (.bool policy.dropsContradictions)] :=
    record?_members [("drop_contradicting_rules", some _)] 0 (by simp)
  unfold configOfJson?
  rw [hrecord]
  rfl

theorem ofJson?_toJson (policy : RulePolicy) : ofJson? policy.toJson = some policy := by
  have hrecord : policy.toJson.record? ["priority", "config", "rules"] 3 =
      some [some (ofInt32 policy.priority), some policy.configToJson,
        some (.arr (policy.learned.map Rule.toJson))] :=
    record?_members [("priority", some _), ("config", some _), ("rules", some _)] 3 (by simp)
  have hlearned := asList?_map fun rule (_ : rule ∈ policy.learned) => Rule.ofJson?_toJson rule
  unfold ofJson?
  rw [hrecord]
  simp only [Option.bind_eq_bind, Option.bind_some, field, asInt32?_ofInt32,
    configOfJson?_configToJson, hlearned]
  rfl

theorem legible_toJson (policy : RulePolicy) (depth : Nat) :
    Legible (depth + 7) policy.toJson := by
  have hconfig : Legible (depth + 6) policy.configToJson := by
    refine .obj ?_
    simp only [List.forall_mem_cons]
    exact ⟨.bool _, List.forall_mem_nil _⟩
  have hlearned : Legible (depth + 6) (.arr (policy.learned.map Rule.toJson)) := by
    refine .arr fun item hitem => ?_
    obtain ⟨rule, _, rfl⟩ := List.mem_map.1 hitem
    exact rule.legible_toJson depth
  refine .obj ?_
  simp only [List.forall_mem_cons]
  exact ⟨legible_ofInt32 _, hconfig, hlearned, List.forall_mem_nil _⟩

end RulePolicy

namespace UnexpectedIntentPolicy

theorem asSet?_keys (intents : SortedMap Unit) :
    asSet? (Json.strings intents.keys) = some intents := by
  have hkeys : asList? asString? (Json.strings intents.keys) = some intents.keys :=
    asList?_map fun _ _ => rfl
  have hentries : intents.keys.map (·, ()) = intents.entries := by
    unfold SortedMap.keys
    rw [List.map_map]
    exact List.map_id' intents.entries
  unfold asSet?
  rw [hkeys, Option.map_some, hentries, SortedMap.ofList_entries]

theorem legible_strings (items : List String) (depth : Nat) :
    Legible (depth + 1) (Json.strings items) := by
  refine .arr fun item hitem => ?_
  obtain ⟨s, _, rfl⟩ := List.mem_map.1 hitem
  exact .str s

theorem configOfJson?_ignored (intents : List String) :
    configOfJson? (.obj [("ignore_intents", Json.strings intents)]) = some intents := by
  have hrecord : (Json.obj [("ignore_intents", Json.strings intents)]).record?
      ["ignore_intents"] 0 = some [some (Json.strings intents)] :=
    record?_members [("ignore_intents", some _)] 0 (by simp)
  unfold configOfJson?
  rw [hrecord]
  exact asList?_map fun _ _ => rfl

theorem ofJson?_toJson (policy : UnexpectedIntentPolicy) :
    ofJson? policy.toJson = some policy := by
  have hrecord : policy.toJson.record? ["priority", "config", "observed"] 3 =
      some [some (ofInt32 policy.priority),
        some (.obj [("ignore_intents", Json.strings policy.ignoredIntents)]),
        some (.obj (policy.observed.entries.map fun entry =>
          (entry.1, Json.strings entry.2.keys)))] :=
    record?_members [("priority", some _), ("config", some _), ("observed", some _)] 3 (by simp)
  unfold ofJson?
  rw [hrecord]
  simp only [Option.bind_eq_bind, Option.bind_some, field, asInt32?_ofInt32,
    configOfJson?_ignored, asMap?_entries asSet?_keys]
  rfl

theorem legible_toJson (policy : UnexpectedIntentPolicy) (depth : Nat) :
    Legible (depth + 3) policy.toJson := by
  have hconfig : Legible (depth + 2)
      (.obj [("ignore_intents", Json.strings policy.ignoredIntents)]) := by
    refine .obj ?_
    simp only [List.forall_mem_cons]
    exact ⟨legible_strings _ depth, List.forall_mem_nil _⟩
  have hobserved : Legible (depth + 2) (.obj (policy.observed.entries.map
      fun entry => (entry.1, Json.strings entry.2.keys))) := by
    refine .obj fun member hmember => ?_
    obtain ⟨⟨action, intents⟩, _, rfl⟩ := List.mem_map.1 hmember
    exact legible_strings _ depth
  refine .obj ?_
  simp only [List.forall_mem_cons]
  exact ⟨legible_ofInt32 _, hconfig, hobserved, List.forall_mem_nil _⟩

end UnexpectedIntentPolicy

/-- The texts of the thresholds read back as the thresholds. -/
structure FallbackConfig.Exact (config : FallbackConfig) : Prop where
  nlu : ReadsBack config.nluThreshold
  ambiguity : ReadsBack config.ambiguityThreshold
  core : ReadsBack config.coreThreshold

namespace FallbackConfig

theorem exact_default : Exact {} := by
  have htenth : ReadsBack 0.1 :=
    readsBack_of_scaled "0.1" ⟨1, -1⟩ (by decide +kernel) (by rfl) (by decide +kernel)
  have htenths : ReadsBack 0.3 :=
    readsBack_of_scaled "0.3" ⟨3, -1⟩ (by decide +kernel) (by rfl) (by decide +kernel)
  exact ⟨htenths, htenth, htenths⟩

theorem asFloat?_of_readsBack {x : Float} (h : ReadsBack x) : asFloat? (.float x) = some x := by
  refine if_pos ?_
  cases hfinite : x.isFinite with
  | true => rfl
  | false =>
    -- What is no number is written as a word, and no word is read as a number.
    unfold ReadsBack renderFloat at h
    rw [hfinite] at h
    cases h

theorem ofJson?_toJson {config : FallbackConfig} (h : config.Exact) :
    ofJson? config.toJson = some config := by
  have hrecord : config.toJson.record? ["nlu_threshold", "ambiguity_threshold", "core_threshold",
      "fallback_action_name"] 0 =
      some [some (.float config.nluThreshold), some (.float config.ambiguityThreshold),
        some (.float config.coreThreshold), some (.str config.action)] :=
    record?_members [("nlu_threshold", some _), ("ambiguity_threshold", some _),
      ("core_threshold", some _), ("fallback_action_name", some _)] 0 (by simp)
  unfold ofJson?
  rw [hrecord]
  simp only [Option.bind_eq_bind, Option.bind_some, defaultField, asFloat?_of_readsBack h.nlu,
    asFloat?_of_readsBack h.ambiguity, asFloat?_of_readsBack h.core, asString?]
  rfl

theorem legible_toJson {config : FallbackConfig} (h : config.Exact) (depth : Nat) :
    Legible (depth + 1) config.toJson := by
  refine .obj ?_
  simp only [List.forall_mem_cons]
  exact ⟨.float h.nlu, .float h.ambiguity, .float h.core, .str _, List.forall_mem_nil _⟩

end FallbackConfig

namespace FallbackPolicy

theorem ofJson?_toJson {policy : FallbackPolicy} (h : policy.config.Exact) :
    ofJson? policy.toJson = some policy := by
  have hrecord : policy.toJson.record? ["priority", "config"] 2 =
      some [some (ofInt32 policy.priority), some policy.config.toJson] :=
    record?_members [("priority", some _), ("config", some _)] 2 (by simp)
  unfold ofJson?
  rw [hrecord]
  simp only [Option.bind_eq_bind, Option.bind_some, field, asInt32?_ofInt32,
    FallbackConfig.ofJson?_toJson h]
  rfl

theorem legible_toJson {policy : FallbackPolicy} (h : policy.config.Exact) (depth : Nat) :
    Legible (depth + 2) policy.toJson := by
  refine .obj ?_
  simp only [List.forall_mem_cons]
  exact ⟨legible_ofInt32 _, FallbackConfig.legible_toJson h depth, List.forall_mem_nil _⟩

end FallbackPolicy

end Dialogue
