import Dialogue.Proofs.ModelLoading
import Dialogue.Proofs.PathComponents

/-!
Whatever the metadata names, loaders are called only with directories one step below the model. A
record that names another directory is refused.
-/
namespace Dialogue

open FileTree

/-! ### Reading -/

/-- A recorded directory comes down to one segment, and in every tree where it is found it is what
the model has under that name. -/
structure OneStepDown (model : Path) (directory segment : String) : Prop where
  components_eq : (Path.mk directory).components = [.normal segment]
  steps_eq : (Path.mk directory).steps = [segment]
  isName : Path.IsName segment
  leads : ∀ ⦃tree : FileTree⦄ ⦃names : List String⦄,
    tree.locate (model.join directory) = .ok names →
      ∃ base, tree.locate model = .ok base ∧ names = base ++ [segment]

theorem oneStepDown_folder {model : Path} {directory : String}
    (h : (Path.mk directory).isSingleName = true) :
    OneStepDown model directory (Path.mk directory).folder where
  components_eq := Path.components_of_isSingleName h
  steps_eq := Path.steps_of_isSingleName h
  isName := Path.isName_folder h
  leads := fun _ _ => locate_single h

/-- The type loads from a directory what is in a file, whatever else there is. -/
def Registration.ReadsOnly {π : Type} (registration : Registration π) (directory file : Path) :
    Prop :=
  ∀ ⦃tree later : FileTree⦄, later.lookUp file = tree.lookUp file →
    registration.load later directory = registration.load tree directory

theorem Policy.loadState_congr_lookUp {α : Type} {decode : Json → Option α} {tree later : FileTree}
    {directory : Path}
    (h : later.lookUp (directory.join stateFile) = tree.lookUp (directory.join stateFile)) :
    loadState decode later directory = loadState decode tree directory := by
  unfold loadState contains FileTree.read
  dsimp only
  rw [h]

theorem BuiltinPolicy.readsOnly {registration : Registration BuiltinPolicy} {model : Path}
    {directory : String} (hmem : registration ∈ registrations)
    (hsingle : (Path.mk directory).isSingleName = true) :
    registration.ReadsOnly (model.join directory)
      ((model.join (Path.mk directory).folder).join Policy.stateFile) := by
  intro tree later h
  obtain ⟨α, typeName, modulePath, create, decode, f, rfl⟩ := exists_codec hmem
  rw [← lookUp_folder hsingle Ensemble.isName_stateFile,
    ← lookUp_folder hsingle Ensemble.isName_stateFile] at h
  unfold Registration.map Registration.ofCodec
  dsimp only
  rw [Policy.loadState_congr_lookUp h]

/-! ### Other loaders -/

section

variable {π : Type}

def Registration.withLoader (registration : Registration π)
    (loader : FileTree → Path → Except Error (Option π)) : Registration π :=
  { registration with load := loader }

@[simp] theorem Registration.typeName_withLoader (registration : Registration π)
    (loader : FileTree → Path → Except Error (Option π)) :
    (registration.withLoader loader).typeName = registration.typeName := rfl

@[simp] theorem Registration.qualifiedName_withLoader (registration : Registration π)
    (loader : FileTree → Path → Except Error (Option π)) :
    (registration.withLoader loader).qualifiedName = registration.qualifiedName := rfl

def Registry.withLoaders (registry : Registry π)
    (loaders : Registration π → FileTree → Path → Except Error (Option π)) : Registry π :=
  ⟨registry.entries.map fun entry => entry.withLoader (loaders entry)⟩

theorem Registry.resolve_withLoaders (registry : Registry π)
    (loaders : Registration π → FileTree → Path → Except Error (Option π)) (name : String) :
    (registry.withLoaders loaders).resolve name =
      (registry.resolve name).map fun entry => entry.withLoader (loaders entry) := by
  unfold resolve withLoaders
  simp only [← List.map_reverse, List.find?_map, Function.comp_def,
    Registration.qualifiedName_withLoader, Registration.typeName_withLoader]
  cases registry.entries.find? (·.qualifiedName == name) with
  | some entry => rfl
  | none => cases isQualified name <;> rfl

end

namespace Ensemble

variable {π : Type} [Policy π]

/-! ### Calls -/

/-- The calls of loaders for some records, up to the first record that is faulty: each loader with
the directory that it is given. -/
def callsOf (registry : Registry π) (tree : FileTree) (model : Path) :
    List ModelEntry → List (Registration π × Path)
  | [] => []
  | entry :: rest =>
    match resolveEntry registry entry with
    | .error _ => []
    | .ok registration =>
      (registration, model.join entry.directory) ::
        match loadEntry registry tree model entry with
        | .error _ => []
        | .ok _ => callsOf registry tree model rest

def calls (registry : Registry π) (tree : FileTree) (model : Path) :
    List (Registration π × Path) :=
  match Metadata.read tree model with
  | .error _ => []
  | .ok metadata =>
    match metadata.verify with
    | .error _ => []
    | .ok _ => callsOf registry tree model metadata.policies

variable {registry : Registry π} {tree : FileTree} {model : Path} {metadata : Metadata}
  {entry : ModelEntry} {loaders : Registration π → FileTree → Path → Except Error (Option π)}

theorem calls_of_verified (hread : Metadata.read tree model = .ok metadata)
    (hverify : metadata.verify = .ok ()) :
    calls registry tree model = callsOf registry tree model metadata.policies := by
  unfold calls
  rw [hread]
  dsimp only
  rw [hverify]

omit [Policy π] in
theorem resolveEntry_withLoaders :
    resolveEntry (registry.withLoaders loaders) entry =
      (resolveEntry registry entry).map fun found => found.withLoader (loaders found) := by
  unfold resolveEntry
  rw [registry.resolve_withLoaders]
  cases registry.resolve entry.qualifiedName with
  | none => rfl
  | some registration =>
    dsimp only [Option.map_some]
    cases (Path.mk entry.directory).isSingleName <;> rfl

theorem loadEntry_withLoaders (h : ∀ registration, resolveEntry registry entry = .ok registration →
      loaders registration tree (model.join entry.directory) =
        registration.load tree (model.join entry.directory)) :
    loadEntry (registry.withLoaders loaders) tree model entry =
      loadEntry registry tree model entry := by
  unfold loadEntry
  rw [resolveEntry_withLoaders]
  cases hresolve : resolveEntry registry entry with
  | error cause => rfl
  | ok registration =>
    show (loaders registration tree (model.join entry.directory) >>= _) =
      (registration.load tree (model.join entry.directory) >>= _)
    rw [h registration hresolve]
    rfl

theorem mapM_withLoaders {entries : List ModelEntry}
    (h : ∀ call ∈ callsOf registry tree model entries,
      loaders call.1 tree call.2 = call.1.load tree call.2) :
    entries.mapM (loadEntry (registry.withLoaders loaders) tree model) =
      entries.mapM (loadEntry registry tree model) := by
  induction entries with
  | nil => rfl
  | cons entry rest ih =>
    rw [callsOf] at h
    rw [List.mapM_cons, List.mapM_cons, loadEntry_withLoaders]
    · cases hload : loadEntry registry tree model entry with
      | error error => rfl
      | ok slot =>
        obtain ⟨registration, hresolve, hsingle, -⟩ := loadEntry_eq_ok_iff.1 hload
        rw [resolveEntry_eq_ok_iff.2 ⟨hresolve, hsingle⟩, hload] at h
        rw [ih fun call hcall => h call (List.mem_cons_of_mem _ hcall)]
    · intro registration hresolve
      rw [hresolve] at h
      exact h _ List.mem_cons_self

/-- What is loaded depends on what the loaders do in their calls, and on nothing else that they might
do. -/
theorem load_withLoaders
    (h : ∀ call ∈ calls registry tree model, loaders call.1 tree call.2 = call.1.load tree call.2) :
    load (registry.withLoaders loaders) tree model = load registry tree model := by
  unfold load
  dsimp only [Except.mapError, bind, Except.bind]
  cases hread : Metadata.read tree model with
  | error cause => dsimp only
  | ok metadata =>
    dsimp only
    cases hverify : metadata.verify with
    | error cause => dsimp only
    | ok verified =>
      rw [calls_of_verified hread hverify] at h
      rw [mapM_withLoaders h]

theorem of_mem_callsOf {entries : List ModelEntry} {call : Registration π × Path}
    (h : call ∈ callsOf registry tree model entries) :
    ∃ entry ∈ entries, LoadsBy registry entry call.1 ∧ call.2 = model.join entry.directory := by
  induction entries with
  | nil => cases h
  | cons entry rest ih =>
    rw [callsOf] at h
    split at h
    · cases h
    · rename_i registration hresolve
      rcases List.mem_cons.1 h with rfl | h
      · obtain ⟨hresolve, hsingle⟩ := resolveEntry_eq_ok_iff.1 hresolve
        exact ⟨entry, List.mem_cons_self, ⟨hresolve, hsingle⟩, rfl⟩
      · split at h
        · cases h
        · obtain ⟨other, hmem, hother⟩ := ih h
          exact ⟨other, List.mem_cons_of_mem _ hmem, hother⟩

theorem of_mem_calls {call : Registration π × Path} (h : call ∈ calls registry tree model) :
    ∃ metadata, Metadata.read tree model = .ok metadata ∧ metadata.verify = .ok () ∧
      ∃ entry ∈ metadata.policies, LoadsBy registry entry call.1 ∧
        call.2 = model.join entry.directory := by
  unfold calls at h
  split at h
  · cases h
  · rename_i metadata hread
    split at h
    · cases h
    · rename_i hverify
      exact ⟨metadata, hread, hverify, of_mem_callsOf h⟩

/-! ### Refusals -/

theorem load_ne_ok_of_stray (hread : Metadata.read tree model = .ok metadata)
    (hmem : entry ∈ metadata.policies) (hstray : (Path.mk entry.directory).Stray)
    (ensemble : Ensemble π) (noticed : List Warning) :
    load registry tree model ≠ .ok (ensemble, noticed) := by
  intro hload
  obtain ⟨_, slots, hread', -, hslots, -⟩ := load_eq_ok_iff.1 hload
  cases hread.symm.trans hread'
  have hloaded := List.mem_map_of_mem (f := loadEntry registry tree model) hmem
  rw [mapM_eq_ok_iff.1 hslots] at hloaded
  obtain ⟨slot, -, hslot⟩ := List.mem_map.1 hloaded
  obtain ⟨_, -, hsingle, -⟩ := loadEntry_eq_ok_iff.1 hslot.symm
  rw [hstray.not_isSingleName] at hsingle
  cases hsingle

theorem load_of_stray (hread : Metadata.read tree model = .ok metadata)
    (hverify : metadata.verify = .ok ()) {before after : List ModelEntry}
    (hsplit : metadata.policies = before ++ entry :: after)
    (hstray : (Path.mk entry.directory).Stray)
    (hbefore : ∀ earlier ∈ before, ∃ slot, Restored registry tree model earlier slot)
    (hresolve : registry.resolve entry.qualifiedName ≠ none) :
    load registry tree model = .error (.model (.invalidDirectory entry.directory)) := by
  obtain ⟨registration, hresolve⟩ := Option.ne_none_iff_exists'.1 hresolve
  have hfault : Faulty registry tree model entry (.model (.invalidDirectory entry.directory)) :=
    .invalidDirectory registration hresolve hstray.not_isSingleName
  exact load_eq_error_iff.2 (Or.inr ⟨metadata, hread, Or.inr ⟨hverify,
    firstFault_iff.1 ⟨before, entry, ⟨after, hsplit⟩, hbefore, hfault⟩⟩⟩)

/-- Loading calls loaders only with directories one step below the model: what is loaded would be the
same whatever they did anywhere else. There the types that come with the library read nothing but
their state file. Metadata that names a directory astray is not loaded, and where it comes to that
record, the error tells of the directory. -/
theorem load_stays_inside (registry : Registry π) (tree : FileTree) (model : Path) :
    (∀ loaders : Registration π → FileTree → Path → Except Error (Option π),
      (∀ call ∈ calls registry tree model,
        loaders call.1 tree call.2 = call.1.load tree call.2) →
      load (registry.withLoaders loaders) tree model = load registry tree model) ∧
    (∀ call ∈ calls registry tree model, ∃ metadata, Metadata.read tree model = .ok metadata ∧
      ∃ entry ∈ metadata.policies, call.2 = model.join entry.directory ∧
      ∃ segment, OneStepDown model entry.directory segment ∧
      ∀ builtin ∈ BuiltinPolicy.registrations,
        builtin.ReadsOnly call.2 ((model.join segment).join Policy.stateFile)) ∧
    ∀ metadata before entry after, Metadata.read tree model = .ok metadata →
      metadata.verify = .ok () → metadata.policies = before ++ entry :: after →
      (Path.mk entry.directory).Stray →
      (∀ ensemble noticed, load registry tree model ≠ .ok (ensemble, noticed)) ∧
      ((∀ earlier ∈ before, ∃ slot, Restored registry tree model earlier slot) →
        registry.resolve entry.qualifiedName ≠ none →
        ∃ error, load registry tree model = .error error ∧
          error.message = "Persistence error: " ++
            ("Invalid ensemble metadata: invalid policy directory '" ++ entry.directory ++ "'")) := by
  refine ⟨fun loaders => load_withLoaders, ?_, ?_⟩
  · intro call hcall
    obtain ⟨metadata, hread, -, entry, hmem, hentry, hpath⟩ := of_mem_calls hcall
    refine ⟨metadata, hread, entry, hmem, hpath, _, oneStepDown_folder hentry.isSingleName, ?_⟩
    intro builtin hbuiltin
    rw [hpath]
    exact BuiltinPolicy.readsOnly hbuiltin hentry.isSingleName
  · intro metadata before entry after hread hverify hsplit hstray
    have hmem : entry ∈ metadata.policies := by
      rw [hsplit]
      exact List.mem_append_right _ List.mem_cons_self
    refine ⟨load_ne_ok_of_stray hread hmem hstray, fun hbefore hresolve => ?_⟩
    exact ⟨_, load_of_stray hread hverify hsplit hstray hbefore hresolve, rfl⟩

def bare (text : String) : FileTree := .directory [("model", .directory [
  ("kept", .directory []), ("metadata.json", .file text)])]

/-- Metadata with a directory that is oddly spelled, and with one that leads back out of it. -/
def wayward : Metadata :=
  .current name [⟨Policy.qualify MemoizationPolicy.modulePath MemoizationPolicy.typeName, "kept//."⟩,
    ⟨FallbackPolicy.typeName, "kept/../.."⟩] ⟨2024, 2, 29, 12, 30, 0, 0⟩ none

theorem load_wayward :
    (∃ call ∈ calls .builtin (bare wayward.toJson.pretty) ⟨"model"⟩,
      call.2 = ⟨"model/kept//."⟩ ∧
      ∃ entry ∈ wayward.policies, call.2 = (Path.mk "model").join entry.directory ∧
      ∃ segment, OneStepDown ⟨"model"⟩ entry.directory segment) ∧
    ∃ error, load .builtin (bare wayward.toJson.pretty) ⟨"model"⟩ = .error error ∧
      error.message = "Persistence error: " ++
        ("Invalid ensemble metadata: invalid policy directory '" ++ "kept/../.." ++ "'") := by
  have hfile (text : String) : (bare text).read ((Path.mk "model").join Metadata.fileName) =
      .ok text := rfl
  have hread : Metadata.read (bare wayward.toJson.pretty) ⟨"model"⟩ = .ok wayward :=
    Metadata.read_of_written ⟨by decide, by decide, by decide⟩ (hfile _)
  have hverify : wayward.verify = .ok () := Metadata.verify_current _ _ _ _
  have hcalls : (calls .builtin (bare wayward.toJson.pretty) ⟨"model"⟩).map (·.2) =
      [⟨"model/kept//."⟩] := by
    rw [calls_of_verified hread hverify]
    generalize wayward.toJson.pretty = text
    rfl
  obtain ⟨-, hinside, hrefused⟩ :=
    load_stays_inside .builtin (bare wayward.toJson.pretty) ⟨"model"⟩
  constructor
  · obtain ⟨call, hcall, hpath⟩ := List.mem_map.1 (hcalls ▸ List.mem_singleton_self _)
    obtain ⟨metadata, hmetadata, entry, hmem, hjoin, segment, hbelow, -⟩ := hinside call hcall
    cases hread.symm.trans hmetadata
    exact ⟨call, hcall, hpath, entry, hmem, hjoin, segment, hbelow⟩
  · refine (hrefused wayward
      [⟨Policy.qualify MemoizationPolicy.modulePath MemoizationPolicy.typeName, "kept//."⟩]
      ⟨FallbackPolicy.typeName, "kept/../.."⟩ [] hread hverify rfl ?_).2 ?_ ?_
    · exact .leaves (by decide)
    · rw [List.forall_mem_singleton]
      generalize wayward.toJson.pretty = text
      exact ⟨none, restored_iff.2 rfl⟩
    · decide

end Ensemble

end Dialogue
