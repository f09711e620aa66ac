import Dialogue.Proofs.FailedPersist
import Mathlib.Data.List.Forall2

/-!
If the metadata holds up and each record can be dealt with, what the loaders returned is the
ensemble. Otherwise the metadata or the first record that cannot be dealt with says what is wrong.
-/
namespace Dialogue

namespace Ensemble

variable {π : Type} [Policy π] {registry : Registry π} {tree : FileTree} {model : Path}
  {entry : ModelEntry} {slot : Option π} {error : Error}

/-! ### One record -/

/-- The type that a recorded policy is loaded by. The directory is known to be in the model. -/
structure LoadsBy (registry : Registry π) (entry : ModelEntry) (registration : Registration π) :
    Prop where
  resolve_eq : registry.resolve entry.qualifiedName = some registration
  isSingleName : (Path.mk entry.directory).isSingleName = true

/-- What a recorded policy is restored as: a policy of the type that its name stands for, or nothing
if the loader finds nothing. -/
inductive Restored (registry : Registry π) (tree : FileTree) (model : Path) (entry : ModelEntry) :
    Option π → Prop
  | absent (registration : Registration π) (hentry : LoadsBy registry entry registration)
    (hload : registration.load tree (model.join entry.directory) = .ok none) :
    Restored registry tree model entry none
  | present (registration : Registration π) (policy : π)
    (hentry : LoadsBy registry entry registration)
    (hload : registration.load tree (model.join entry.directory) = .ok (some policy))
    (htype : Policy.qualifiedName policy = registration.qualifiedName) :
    Restored registry tree model entry (some policy)

inductive Faulty (registry : Registry π) (tree : FileTree) (model : Path) (entry : ModelEntry) :
    Error → Prop
  | unknownType (hresolve : registry.resolve entry.qualifiedName = none) :
    Faulty registry tree model entry (.model (.unknownPolicyType entry.qualifiedName))
  | invalidDirectory (registration : Registration π)
    (hresolve : registry.resolve entry.qualifiedName = some registration)
    (hdirectory : (Path.mk entry.directory).isSingleName = false) :
    Faulty registry tree model entry (.model (.invalidDirectory entry.directory))
  | loader (registration : Registration π) (error : Error)
    (hentry : LoadsBy registry entry registration)
    (hload : registration.load tree (model.join entry.directory) = .error error) :
    Faulty registry tree model entry error
  | otherType (registration : Registration π) (policy : π)
    (hentry : LoadsBy registry entry registration)
    (hload : registration.load tree (model.join entry.directory) = .ok (some policy))
    (htype : Policy.qualifiedName policy ≠ registration.qualifiedName) :
    Faulty registry tree model entry
      (.model (.typeMismatch registration.qualifiedName (Policy.qualifiedName policy)))

theorem restored_iff :
    Restored registry tree model entry slot ↔ loadEntry registry tree model entry = .ok slot := by
  rw [loadEntry_eq_ok_iff]
  constructor
  · rintro (⟨registration, hentry, hload⟩ | ⟨registration, policy, hentry, hload, htype⟩)
    · exact ⟨registration, hentry.resolve_eq, hentry.isSingleName, hload, by simp⟩
    · exact ⟨registration, hentry.resolve_eq, hentry.isSingleName, hload, by simpa using htype⟩
  · rintro ⟨registration, hresolve, hsingle, hload, htype⟩
    cases slot with
    | none => exact .absent registration ⟨hresolve, hsingle⟩ hload
    | some policy =>
      exact .present registration policy ⟨hresolve, hsingle⟩ hload (htype policy rfl)

omit [Policy π] in
theorem resolveEntry_eq_error_iff {cause : ModelError} :
    resolveEntry registry entry = .error cause ↔
      registry.resolve entry.qualifiedName = none ∧
          cause = .unknownPolicyType entry.qualifiedName ∨
        registry.resolve entry.qualifiedName ≠ none ∧
          (Path.mk entry.directory).isSingleName = false ∧
          cause = .invalidDirectory entry.directory := by
  unfold resolveEntry
  cases registry.resolve entry.qualifiedName with
  | none => simp [@eq_comm _ cause]
  | some registration =>
    cases (Path.mk entry.directory).isSingleName <;> simp [@eq_comm _ cause]

theorem checkLoaded_eq_error_iff {registration : Registration π} {policy : π} {cause : ModelError} :
    checkLoaded registration policy = .error cause ↔
      Policy.qualifiedName policy ≠ registration.qualifiedName ∧
        cause = .typeMismatch registration.qualifiedName (Policy.qualifiedName policy) := by
  unfold checkLoaded
  by_cases htype : Policy.qualifiedName policy = registration.qualifiedName
  · simp [htype]
  · rw [if_neg htype, Except.error.injEq, @eq_comm _ _ cause, and_iff_right htype]

theorem faulty_iff :
    Faulty registry tree model entry error ↔ loadEntry registry tree model entry = .error error := by
  unfold loadEntry
  simp only [bind_eq_error_iff, mapError_eq_error_iff, mapError_eq_ok_iff,
    resolveEntry_eq_error_iff, resolveEntry_eq_ok_iff]
  constructor
  · rintro (hresolve | ⟨registration, hresolve, hdirectory⟩ | ⟨registration, error, hentry, hload⟩ |
      ⟨registration, policy, hentry, hload, htype⟩)
    · exact Or.inl ⟨_, Or.inl ⟨hresolve, rfl⟩, rfl⟩
    · exact Or.inl ⟨_, Or.inr ⟨by simp [hresolve], hdirectory, rfl⟩, rfl⟩
    · exact Or.inr ⟨registration, ⟨hentry.resolve_eq, hentry.isSingleName⟩, Or.inl hload⟩
    · refine Or.inr ⟨registration, ⟨hentry.resolve_eq, hentry.isSingleName⟩, Or.inr ⟨_, hload, ?_⟩⟩
      simp only [bind_eq_error_iff, mapError_eq_error_iff, checkLoaded_eq_error_iff]
      exact Or.inl ⟨_, ⟨htype, rfl⟩, rfl⟩
  · rintro (⟨cause, ⟨hresolve, rfl⟩ | ⟨hresolve, hdirectory, rfl⟩, rfl⟩ |
      ⟨registration, ⟨hresolve, hsingle⟩, hload | ⟨found, hload, hfound⟩⟩)
    · exact .unknownType hresolve
    · obtain ⟨registration, hresolve⟩ := Option.ne_none_iff_exists'.1 hresolve
      exact .invalidDirectory registration hresolve hdirectory
    · exact .loader registration error ⟨hresolve, hsingle⟩ hload
    · cases found with
      | none => cases hfound
      | some policy =>
        simp only [bind_eq_error_iff, mapError_eq_error_iff, checkLoaded_eq_error_iff] at hfound
        obtain ⟨_, ⟨htype, rfl⟩, rfl⟩ | ⟨_, _, hpure⟩ := hfound
        · exact .otherType registration policy ⟨hresolve, hsingle⟩ hload htype
        · cases hpure

/-! ### All records -/

theorem forall₂_restored_iff {entries : List ModelEntry} {slots : List (Option π)} :
    List.Forall₂ (Restored registry tree model) entries slots ↔
      entries.mapM (loadEntry registry tree model) = .ok slots := by
  rw [mapM_eq_ok_iff, ← List.forall₂_eq_eq_eq, List.forall₂_map_left_iff,
    List.forall₂_map_right_iff]
  exact ⟨List.Forall₂.imp fun _ _ => restored_iff.1, List.Forall₂.imp fun _ _ => restored_iff.2⟩

/-- The first of some records that is faulty says what is wrong. -/
structure FirstFault (registry : Registry π) (tree : FileTree) (model : Path)
    (entries before : List ModelEntry) (entry : ModelEntry) (error : Error) : Prop where
  split : ∃ after, entries = before ++ entry :: after
  restored : ∀ earlier ∈ before, ∃ slot, Restored registry tree model earlier slot
  faulty : Faulty registry tree model entry error

theorem firstFault_iff {entries : List ModelEntry} :
    (∃ before entry, FirstFault registry tree model entries before entry error) ↔
      entries.mapM (loadEntry registry tree model) = .error error := by
  rw [mapM_eq_error_iff]
  constructor
  · rintro ⟨before, entry, ⟨after, hsplit⟩, hbefore, hfault⟩
    exact ⟨before, entry, after, hsplit, by simpa only [restored_iff] using hbefore,
      faulty_iff.1 hfault⟩
  · rintro ⟨before, entry, after, hsplit, hbefore, hfault⟩
    exact ⟨before, entry, ⟨after, hsplit⟩, by simpa only [restored_iff] using hbefore,
      faulty_iff.2 hfault⟩

theorem load_eq_error_iff : load registry tree model = .error error ↔
    (∃ cause, Metadata.read tree model = .error cause ∧ error = .model cause) ∨
    ∃ metadata, Metadata.read tree model = .ok metadata ∧
      ((∃ cause, metadata.verify = .error cause ∧ error = .model cause) ∨
        metadata.verify = .ok () ∧
          metadata.policies.mapM (loadEntry registry tree model) = .error error) := by
  unfold load
  simp only [bind_eq_error_iff, mapError_eq_error_iff, mapError_eq_ok_iff, pure, Except.pure,
    reduceCtorEq, and_false, exists_false, or_false, @eq_comm _ error, exists_and_right]
  have hunit (metadata : Metadata) :
      (∃ verified, metadata.verify = .ok verified) ↔ metadata.verify = .ok () :=
    ⟨fun ⟨_, h⟩ => h, fun h => ⟨(), h⟩⟩
  simp only [hunit]

/-- An ensemble is loaded exactly if the metadata holds up and each record is restored. Its policies
are those that the records were restored as, in order, and it has the time and the domain of the
metadata. In every other case loading fails: with the error of the metadata if it cannot be read or
does not hold up, else with that of the first faulty record. -/
theorem load_restores_or_fails (registry : Registry π) (tree : FileTree) (model : Path) :
    (∀ ensemble noticed, load registry tree model = .ok (ensemble, noticed) ↔
      ∃ metadata slots, Metadata.read tree model = .ok metadata ∧ metadata.verify = .ok () ∧
        List.Forall₂ (Restored registry tree model) metadata.policies slots ∧
        ensemble = { policies := slots.filterMap id, trainedAt := some metadata.trainedAt,
                     domainFingerprint := metadata.domainFingerprint } ∧
        noticed = loadWarnings metadata slots ++ ensemble.warnings) ∧
    ∀ error, load registry tree model = .error error ↔
      (∃ cause, Metadata.read tree model = .error cause ∧ error = .model cause) ∨
      ∃ metadata, Metadata.read tree model = .ok metadata ∧
        ((∃ cause, metadata.verify = .error cause ∧ error = .model cause) ∨
          metadata.verify = .ok () ∧ ∃ before entry,
            FirstFault registry tree model metadata.policies before entry error) := by
  constructor
  · intro ensemble noticed
    simp only [load_eq_ok_iff, forall₂_restored_iff, ofLoaded]
  · intro error
    simp only [load_eq_error_iff, firstFault_iff]

end Ensemble

end Dialogue
