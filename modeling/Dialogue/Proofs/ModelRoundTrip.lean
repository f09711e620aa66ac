import Dialogue.Proofs.ArrivalOrder
import Dialogue.Proofs.MetadataText
import Dialogue.Proofs.ModelFiles
import Dialogue.Proofs.PolicyText

namespace Dialogue

open Json

/-! ### Policies -/

theorem Policy.loadState_of_written {α : Type} {decode : Json → Option α} {state : Json} {value : α}
    {tree : FileTree} {directory : Path} (hlegible : Legible maxDepth state)
    (hdecode : decode state = some value)
    (hwritten : tree.read (directory.join stateFile) = .ok state.pretty) :
    loadState decode tree directory = .ok (some value) := by
  unfold loadState
  dsimp only
  rw [if_pos (FileTree.contains_of_read hwritten), hwritten]
  dsimp only
  rw [read?_pretty hlegible, Option.bind_some, hdecode]

/-- What lets a policy come back from a model: its type is the one that is found by its name, and
loads the policy from a directory with the policy's state. -/
structure Registry.Restores {π : Type} [Policy π] (registry : Registry π) (policy : π)
    (registration : Registration π) (state : Json) : Prop where
  resolve_eq : registry.resolve (Policy.qualifiedName policy) = some registration
  qualifiedName_eq : registration.qualifiedName = Policy.qualifiedName policy
  no_separator : '/' ∉ (Policy.typeName policy).toList
  state_eq : Policy.state policy = some state
  load_eq : ∀ {tree : FileTree} {directory : Path},
    tree.read (directory.join Policy.stateFile) = .ok state.pretty →
    registration.load tree directory = .ok (some policy)

theorem Registration.load_of_written {α π : Type} {typeName modulePath : String}
    {create : Spec → Except ConfigError α} {decode : Json → Option α} {f : α → π} {state : Json}
    {value : α} (hlegible : Legible maxDepth state) (hdecode : decode state = some value)
    {tree : FileTree} {directory : Path}
    (hwritten : tree.read (directory.join Policy.stateFile) = .ok state.pretty) :
    ((ofCodec typeName modulePath create decode).map f).load tree directory =
      .ok (some (f value)) := by
  have hload : (ofCodec typeName modulePath create decode).load tree directory =
      .ok (some value) :=
    Policy.loadState_of_written hlegible hdecode hwritten
  unfold map
  dsimp only
  rw [hload]
  rfl

namespace BuiltinPolicy

/-- The texts of the policy's thresholds, if it has any, read back as the thresholds. -/
def Exact : BuiltinPolicy → Prop
  | fallback policy => policy.config.Exact
  | memoization _ | augmentedMemoization _ | rule _ | unexpectedIntent _ => True

theorem restores {policy : BuiltinPolicy} (h : policy.Exact) :
    ∃ registration state, Registry.builtin.Restores policy registration state := by
  cases policy with
  | memoization policy =>
    exact ⟨_, _, rfl, rfl, no_separator _, rfl,
      Registration.load_of_written (policy.legible_toJson 124) policy.ofJson?_toJson⟩
  | augmentedMemoization policy =>
    exact ⟨_, _, rfl, rfl, no_separator _, rfl,
      Registration.load_of_written (MemoizationPolicy.legible_toJson _ 124) policy.ofJson?_toJson⟩
  | rule policy =>
    exact ⟨_, _, rfl, rfl, no_separator _, rfl,
      Registration.load_of_written (policy.legible_toJson 120) policy.ofJson?_toJson⟩
  | unexpectedIntent policy =>
    exact ⟨_, _, rfl, rfl, no_separator _, rfl,
      Registration.load_of_written (policy.legible_toJson 124) policy.ofJson?_toJson⟩
  | fallback policy =>
    exact ⟨_, _, rfl, rfl, no_separator _, rfl,
      Registration.load_of_written (FallbackPolicy.legible_toJson h 125)
        (FallbackPolicy.ofJson?_toJson h)⟩

theorem Exact.train {policy trained : BuiltinPolicy} (h : policy.Exact) {trackers : List Tracker}
    {domain : Domain} {interpreter : Interpreter} {noticed : List Warning}
    (htrain : Policy.train policy trackers domain interpreter = .ok (trained, noticed)) :
    trained.Exact := by
  cases policy with
  | fallback policy =>
    cases htrain
    exact h
  | memoization policy | augmentedMemoization policy | rule policy | unexpectedIntent policy =>
    obtain ⟨_, _, heq⟩ := map_eq_ok_iff.1 htrain
    cases heq
    trivial

end BuiltinPolicy

/-! ### Ensembles -/

namespace Ensemble

variable {π : Type} [Policy π] {ensemble : Ensemble π} {registry : Registry π} {tree later : FileTree}
  {model : Path} {now time : Timestamp}

theorem map_snd_labelled (ensemble : Ensemble π) :
    ensemble.labelled.map Prod.snd = ensemble.policies := by
  unfold labelled
  rw [List.map_map]
  exact List.zipIdx_map_fst 0 _

theorem loadEntry_of_written {name : String} {policy : π} {registration : Registration π}
    {state : Json} (hname : Path.IsName name) (h : registry.Restores policy registration state)
    (hwritten : later.read ((model.join name).join Policy.stateFile) = .ok state.pretty) :
    loadEntry registry later model ⟨Policy.qualifiedName policy, name⟩ = .ok (some policy) := by
  have hresolved : resolveEntry registry ⟨Policy.qualifiedName policy, name⟩ = .ok registration := by
    unfold resolveEntry
    dsimp only
    rw [h.resolve_eq]
    exact if_pos (Path.isSingleName_of_isName hname)
  have hchecked : checkLoaded registration policy = .ok policy := if_pos h.qualifiedName_eq.symm
  unfold loadEntry
  rw [hresolved]
  show registration.load later (model.join name) >>= _ = _
  rw [h.load_eq hwritten]
  show (checkLoaded registration policy).mapError Error.model >>= _ = _
  rw [hchecked]
  rfl

omit [Policy π] in
theorem loadWarnings_of_all (metadata : Metadata) (policies : List π) :
    loadWarnings metadata (policies.map some) = [] := by
  unfold loadWarnings
  rw [List.filterMap_eq_nil_iff]
  rintro ⟨entry, loaded⟩ hmem
  obtain ⟨policy, _, rfl⟩ := List.mem_map.1 (List.of_mem_zip hmem).2
  rfl

theorem trainedAt_metadata (htrained : ensemble.trainedAt = some time) :
    (ensemble.metadata now).trainedAt = time := by
  show ensemble.trainedAt.getD now = time
  rw [htrained]
  rfl

theorem ofLoaded_all (htrained : ensemble.trainedAt = some time) :
    ofLoaded (ensemble.metadata now) (ensemble.policies.map some) =
      { ensemble with fanOut := .sequential } := by
  unfold ofLoaded
  rw [trainedAt_metadata htrained, ← htrained, List.filterMap_map, Function.id_comp, List.filterMap_some]
  rfl

theorem no_separator_of_restores
    (hall : ∀ policy ∈ ensemble.policies, ∃ registration state,
      registry.Restores policy registration state) :
    ∀ policy ∈ ensemble.policies, '/' ∉ (Policy.typeName policy).toList := by
  intro policy hpolicy
  obtain ⟨_, _, hrestores⟩ := hall policy hpolicy
  exact hrestores.no_separator

theorem mapM_loadEntry
    (hall : ∀ policy ∈ ensemble.policies, ∃ registration state,
      registry.Restores policy registration state)
    (h : ensemble.persist now tree model = (later, .ok ())) :
    (ensemble.metadata now).policies.mapM (loadEntry registry later model) =
      .ok (ensemble.policies.map some) := by
  have hnames := no_separator_of_restores hall
  show ensemble.entries.mapM _ = _
  unfold entries
  rw [mapM_eq_ok_iff, ← map_snd_labelled, List.map_map, List.map_map, List.map_map]
  refine List.map_congr_left ?_
  rintro ⟨name, policy⟩ hmem
  have hpolicy : policy ∈ ensemble.policies := by
    rw [← map_snd_labelled]
    exact List.mem_map_of_mem hmem
  obtain ⟨registration, state, hrestores⟩ := hall policy hpolicy
  exact loadEntry_of_written (isName_of_mem_labelled hnames hmem) hrestores
    (read_state hnames h hmem hrestores.state_eq)

theorem load_of_restores
    (hall : ∀ policy ∈ ensemble.policies, ∃ registration state,
      registry.Restores policy registration state)
    (htrained : ensemble.trainedAt = some time) (htime : time.Valid)
    (h : ensemble.persist now tree model = (later, .ok ())) :
    load registry later model = .ok ({ ensemble with fanOut := .sequential }, ensemble.warnings) := by
  have hvalid : (ensemble.metadata now).trainedAt.Valid := by
    rwa [trainedAt_metadata htrained]
  have hread := Metadata.read_of_written hvalid
    (read_metadata (no_separator_of_restores hall) h)
  have hverify : (ensemble.metadata now).verify = .ok () := Metadata.verify_current _ _ _ _
  unfold load
  refine bind_eq_ok_iff.2 ⟨ensemble.metadata now, ?_, bind_eq_ok_iff.2 ⟨(), ?_,
    bind_eq_ok_iff.2 ⟨ensemble.policies.map some, mapM_loadEntry hall h, ?_⟩⟩⟩
  · rw [hread]
    rfl
  · rw [hverify]
    rfl
  · rw [loadWarnings_of_all, ofLoaded_all htrained]
    rfl

theorem persist_of_trained (htrained : ensemble.trainedAt = some time) (again : Timestamp)
    (fanOut : FanOut) : { ensemble with fanOut }.persist again = ensemble.persist now := by
  funext tree model
  unfold persist persistSteps metadata
  rw [htrained]
  rfl

theorem exact_trainAll {policies : List BuiltinPolicy} (h : ∀ policy ∈ policies, policy.Exact)
    (trackers : List Tracker) (domain : Domain) (interpreter : Interpreter) :
    ∀ policy ∈ (trainAll trackers domain interpreter policies).1, policy.Exact := by
  induction policies with
  | nil => exact h
  | cons policy rest ih =>
    rw [trainAll]
    split
    · exact h
    · rename_i trained noticed htrain
      rw [List.forall_mem_cons] at h ⊢
      exact ⟨h.1.train htrain, ih h.2⟩

theorem exact_train {ensemble : Ensemble BuiltinPolicy}
    (h : ∀ policy ∈ ensemble.policies, policy.Exact) (now : Timestamp) (trackers : List Tracker)
    (domain : Domain) (interpreter : Interpreter) :
    ∀ policy ∈ (ensemble.train now trackers domain interpreter).1.policies, policy.Exact := by
  have hall := exact_trainAll h trackers domain interpreter
  unfold train
  split
  rename_i policies outcome htrained
  rw [htrained] at hall
  cases outcome <;> exact hall

/-- An ensemble that was trained comes back from the directory that it was written to, whatever was
there before: it predicts the same and is written the same way again. Its thresholds have to be
numbers that read back from their texts, and its training to have been at a time that can be shown. -/
theorem load_persist {ensemble : Ensemble BuiltinPolicy} {tree later : FileTree} {model : Path}
    {now time : Timestamp} (hexact : ∀ policy ∈ ensemble.policies, policy.Exact)
    (htrained : ensemble.trainedAt = some time) (htime : time.Valid)
    (h : ensemble.persist now tree model = (later, .ok ())) :
    ∃ loaded, load .builtin later model = .ok (loaded, ensemble.warnings) ∧
      loaded.policies = ensemble.policies ∧ loaded.trainedAt = ensemble.trainedAt ∧
      loaded.domainFingerprint = ensemble.domainFingerprint ∧
      (∀ tracker domain interpreter, loaded.predict tracker domain interpreter =
        ensemble.predict tracker domain interpreter) ∧
      ∀ again, loaded.persist again = ensemble.persist now := by
  have hload := load_of_restores (fun policy hpolicy => BuiltinPolicy.restores (hexact policy hpolicy))
    htrained htime h
  refine ⟨_, hload, rfl, rfl, rfl, ?_, ?_⟩
  · exact fun tracker domain interpreter => predict_fanOut ensemble _ tracker domain interpreter
  · exact fun again => persist_of_trained htrained again _

def stale : FileTree := .directory [("model", .directory [("metadata.json", .file "?"),
  ("policy_0_MemoizationPolicy", .directory [("policy.json", .file "?")])])]

theorem exact_schooled : ∀ policy ∈ schooled.policies, policy.Exact := by
  refine exact_train ?_ _ _ _ _
  have hfallback : BuiltinPolicy.Exact (.fallback .default) := FallbackConfig.exact_default
  show ∀ policy ∈ [_, _, _, _, _, _], BuiltinPolicy.Exact policy
  simp only [List.forall_mem_cons]
  exact ⟨trivial, trivial, trivial, trivial, hfallback, trivial, List.forall_mem_nil _⟩

theorem load_schooled : schooled.policies.map known = [3, 6, 2, 1, 0, 3] ∧ ∃ later loaded,
    schooled.persist ⟨2025, 1, 1, 0, 0, 0, 0⟩ stale ⟨"model"⟩ = (later, .ok ()) ∧
    load .builtin later ⟨"model"⟩ = .ok (loaded, schooled.warnings) ∧
    loaded.policies = schooled.policies := by
  have hsucceeds :
      (schooled.persist ⟨2025, 1, 1, 0, 0, 0, 0⟩ stale ⟨"model"⟩).2.isOk = true := by
    decide +kernel
  obtain ⟨_, hwritten⟩ := exists_of_isOk hsucceeds
  obtain ⟨loaded, hload, hpolicies, _⟩ := load_persist exact_schooled rfl
    ⟨by decide, by decide, by decide⟩ (Prod.ext rfl hwritten)
  exact ⟨known_schooled, _, loaded, Prod.ext rfl hwritten, hload, hpolicies⟩

end Ensemble

end Dialogue
