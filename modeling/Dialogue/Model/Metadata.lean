import Dialogue.Domain
import Dialogue.Json.Reader
import Dialogue.Timestamp
import Dialogue.Version

namespace Dialogue

/-- A policy of a model: the qualified name of its type, and its directory in the model. -/
structure ModelEntry where
  qualifiedName : String
  directory : String
deriving DecidableEq

namespace ModelEntry

def toJson (entry : ModelEntry) : Json :=
  .obj [("qualified_name", .str entry.qualifiedName), ("directory", .str entry.directory)]

def ofJson? (value : Json) : Option ModelEntry := do
  match ← value.record? ["qualified_name", "directory"] 2 with
  | [qualifiedName, directory] =>
    return ⟨← Json.field Json.asString? qualifiedName, ← Json.field Json.asString? directory⟩
  | _ => none

end ModelEntry

structure Metadata where
  ensembleName : String
  policies : List ModelEntry
  fingerprint : String
  trainedAt : Timestamp
  domainFingerprint : Option String
  version : String
deriving DecidableEq

namespace Metadata

def currentVersion : String := "0.1.0"

def minimumVersion : String := "0.1.0"

def fileName : String := "metadata.json"

def fingerprintBytes (policies : List ModelEntry) (version : String)
    (domainFingerprint : Option String) : List UInt8 :=
  Domain.bytes version ++
    (policies.flatMap fun entry =>
      Domain.measuredBytes entry.qualifiedName ++ Domain.measuredBytes entry.directory) ++
    match domainFingerprint with
    | some fingerprint => Domain.bytes "domain" ++ Domain.bytes fingerprint
    | none => []

def computeFingerprint (policies : List ModelEntry) (version : String)
    (domainFingerprint : Option String) : String :=
  Blake3.hexHash (fingerprintBytes policies version domainFingerprint)

def computed (metadata : Metadata) : String :=
  computeFingerprint metadata.policies metadata.version metadata.domainFingerprint

def current (ensembleName : String) (policies : List ModelEntry) (trainedAt : Timestamp)
    (domainFingerprint : Option String) : Metadata where
  ensembleName := ensembleName
  policies := policies
  fingerprint := computeFingerprint policies currentVersion domainFingerprint
  trainedAt := trainedAt
  domainFingerprint := domainFingerprint
  version := currentVersion

/-- The fingerprint has to fit, and the version must not be older than the oldest supported one. -/
def verify (metadata : Metadata) : Except ModelError Unit :=
  if metadata.computed ≠ metadata.fingerprint then
    .error (.fingerprintMismatch metadata.fingerprint metadata.computed)
  else match Version.ofText? metadata.version with
    | none => .error (.invalidVersion metadata.version)
    | some version =>
      if version.precedes 0 1 0 then .error (.unsupportedVersion metadata.version minimumVersion)
      else .ok ()

def toJson (metadata : Metadata) : Json :=
  .obj [("ensemble_name", .str metadata.ensembleName),
    ("policies", .arr (metadata.policies.map ModelEntry.toJson)),
    ("fingerprint", .str metadata.fingerprint), ("trained_at", .str metadata.trainedAt.toText),
    ("domain_fingerprint", Json.ofOption .str metadata.domainFingerprint),
    ("version", .str metadata.version)]

def asTimestamp? : Json → Option Timestamp
  | .str text => Timestamp.ofText? text
  | _ => none

def ofJson? (value : Json) : Option Metadata := do
  match ← value.record? ["ensemble_name", "policies", "fingerprint", "trained_at",
      "domain_fingerprint", "version"] 6 with
  | [ensembleName, policies, fingerprint, trainedAt, domainFingerprint, version] =>
    return ⟨← Json.field Json.asString? ensembleName,
      ← Json.field (Json.asList? ModelEntry.ofJson?) policies,
      ← Json.field Json.asString? fingerprint, ← Json.field asTimestamp? trainedAt,
      ← Json.optionalField Json.asString? domainFingerprint,
      ← Json.field Json.asString? version⟩
  | _ => none

def read (tree : FileTree) (directory : Path) : Except ModelError Metadata :=
  let path := directory.join fileName
  match tree.read path with
  | .error failure => .error (.io path failure)
  | .ok text =>
    match (Json.read? text).bind ofJson? with
    | some metadata => .ok metadata
    | none => .error (.unreadable path)

def write (metadata : Metadata) (tree : FileTree) (directory : Path) :
    Except ModelError FileTree :=
  let path := directory.join fileName
  (tree.write path metadata.toJson.pretty).mapError (.io path)

end Metadata

end Dialogue
