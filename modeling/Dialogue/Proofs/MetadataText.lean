import Dialogue.Model.Metadata
import Dialogue.Proofs.JsonRecords
import Dialogue.Proofs.TimestampText

namespace Dialogue

open Json

namespace ModelEntry

theorem ofJson?_toJson (entry : ModelEntry) : ofJson? entry.toJson = some entry := by
  have hrecord : entry.toJson.record? ["qualified_name", "directory"] 2 =
      some [some (.str entry.qualifiedName), some (.str entry.directory)] :=
    record?_members [("qualified_name", some _), ("directory", some _)] 2 (by simp)
  unfold ofJson?
  rw [hrecord]
  rfl

theorem legible_toJson (entry : ModelEntry) (depth : Nat) : Legible (depth + 1) entry.toJson := by
  refine .obj ?_
  simp only [List.forall_mem_cons]
  exact ⟨.str _, .str _, List.forall_mem_nil _⟩

end ModelEntry

namespace Metadata

theorem asTimestamp?_toText {time : Timestamp} (h : time.Valid) :
    asTimestamp? (.str time.toText) = some time :=
  Timestamp.ofText?_toText h

theorem optionalField_ofOption (value : Option String) :
    optionalField asString? (some (Json.ofOption .str value)) = some value := by
  cases value <;> rfl

theorem ofJson?_toJson {metadata : Metadata} (h : metadata.trainedAt.Valid) :
    ofJson? metadata.toJson = some metadata := by
  have hrecord : metadata.toJson.record? ["ensemble_name", "policies", "fingerprint", "trained_at",
      "domain_fingerprint", "version"] 6 =
      some [some (.str metadata.ensembleName),
        some (.arr (metadata.policies.map ModelEntry.toJson)), some (.str metadata.fingerprint),
        some (.str metadata.trainedAt.toText),
        some (Json.ofOption .str metadata.domainFingerprint), some (.str metadata.version)] :=
    record?_members [("ensemble_name", some _), ("policies", some _), ("fingerprint", some _),
      ("trained_at", some _), ("domain_fingerprint", some _), ("version", some _)] 6 (by simp)
  have hpolicies := asList?_map fun entry (_ : entry ∈ metadata.policies) =>
    ModelEntry.ofJson?_toJson entry
  unfold ofJson?
  rw [hrecord]
  simp only [Option.bind_eq_bind, Option.bind_some, field, asString?, hpolicies,
    asTimestamp?_toText h, optionalField_ofOption]
  rfl

theorem legible_toJson (metadata : Metadata) (depth : Nat) :
    Legible (depth + 3) metadata.toJson := by
  have hpolicies : Legible (depth + 2) (.arr (metadata.policies.map ModelEntry.toJson)) := by
    refine .arr fun item hitem => ?_
    obtain ⟨entry, _, rfl⟩ := List.mem_map.1 hitem
    exact entry.legible_toJson depth
  have hdomain : Legible (depth + 2) (Json.ofOption .str metadata.domainFingerprint) := by
    cases metadata.domainFingerprint with
    | none => exact .null
    | some fingerprint => exact .str fingerprint
  refine .obj ?_
  simp only [List.forall_mem_cons]
  exact ⟨.str _, hpolicies, .str _, .str _, hdomain, .str _, List.forall_mem_nil _⟩

/-- A version that is not older than the oldest one that can be loaded. -/
def Supported (version : String) : Prop :=
  ∃ number, Version.ofText? version = some number ∧ number.precedes 0 1 0 = false

theorem verify_eq_ok_iff {metadata : Metadata} : metadata.verify = .ok () ↔
    metadata.computed = metadata.fingerprint ∧ Supported metadata.version := by
  unfold verify Supported
  by_cases hfingerprint : metadata.computed = metadata.fingerprint
  · rw [if_neg (not_not_intro hfingerprint)]
    cases hversion : Version.ofText? metadata.version with
    | none => simp
    | some number => cases hold : number.precedes 0 1 0 <;> simp [hfingerprint, hold]
  · simp [hfingerprint]

theorem supported_currentVersion : Supported currentVersion :=
  ⟨{ major := 0, minor := 1, patch := 0 }, by decide, by decide⟩

theorem verify_current (ensembleName : String) (policies : List ModelEntry) (trainedAt : Timestamp)
    (domainFingerprint : Option String) :
    (current ensembleName policies trainedAt domainFingerprint).verify = .ok () :=
  verify_eq_ok_iff.2 ⟨rfl, supported_currentVersion⟩

theorem read_of_written {metadata : Metadata} {tree : FileTree} {model : Path}
    (h : metadata.trainedAt.Valid)
    (hwritten : tree.read (model.join fileName) = .ok metadata.toJson.pretty) :
    Metadata.read tree model = .ok metadata := by
  unfold Metadata.read
  dsimp only
  rw [hwritten]
  dsimp only
  rw [read?_pretty (metadata.legible_toJson 124), Option.bind_some, ofJson?_toJson h]

end Metadata

end Dialogue
