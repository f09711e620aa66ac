import Dialogue.Ensemble
import Dialogue.Model.Metadata
import Dialogue.Policy.Registry

/-!
Model directories: an ensemble is written as one directory a policy and, last of all, the metadata;
it is loaded from what the metadata names.
-/
namespace Dialogue

inductive WriteStep where
  | makeDirectory (path : Path)
  | writeFile (path : Path) (text : String)

namespace WriteStep

/-- Does a step. Directories on the way to one that cannot be made stay. -/
def run (tree : FileTree) : WriteStep → FileTree × Except ModelError Unit
  | makeDirectory path =>
    let (tree, outcome) := tree.makeDirectories path.segments
    (tree, outcome.mapError (.io path))
  | writeFile path text =>
    match tree.write path text with
    | .ok tree => (tree, .ok ())
    | .error failure => (tree, .error (.io path failure))

def runAll (tree : FileTree) : List WriteStep → FileTree × Except ModelError Unit
  | [] => (tree, .ok ())
  | step :: rest =>
    match step.run tree with
    | (tree, .ok _) => runAll tree rest
    | (tree, .error error) => (tree, .error error)

end WriteStep

namespace Ensemble

variable {π : Type} [Policy π]

def name : String := "PolicyEnsemble"

def policySteps (model : Path) (labelled : String × π) : List WriteStep :=
  let directory := model.join labelled.1
  .makeDirectory directory ::
    ((Policy.state labelled.2).map fun state =>
      .writeFile (directory.join Policy.stateFile) state.pretty).toList

def entries (ensemble : Ensemble π) : List ModelEntry :=
  ensemble.labelled.map fun (label, policy) => ⟨Policy.qualifiedName policy, label⟩

def metadata (ensemble : Ensemble π) (now : Timestamp) : Metadata :=
  .current name ensemble.entries (ensemble.trainedAt.getD now) ensemble.domainFingerprint

def persistSteps (ensemble : Ensemble π) (now : Timestamp) (model : Path) : List WriteStep :=
  .makeDirectory model :: ensemble.labelled.flatMap (policySteps model) ++
    [.writeFile (model.join Metadata.fileName) (ensemble.metadata now).toJson.pretty]

/-- Writes an ensemble. The tree is changed as far as the writing got. -/
def persist (ensemble : Ensemble π) (now : Timestamp) (tree : FileTree) (model : Path) :
    FileTree × Except ModelError Unit :=
  WriteStep.runAll tree (ensemble.persistSteps now model)

/-- The registration of a recorded policy, whose directory must be one step below the model. -/
def resolveEntry (registry : Registry π) (entry : ModelEntry) :
    Except ModelError (Registration π) :=
  match registry.resolve entry.qualifiedName with
  | none => .error (.unknownPolicyType entry.qualifiedName)
  | some registration =>
    if (Path.mk entry.directory).isSingleName then .ok registration
    else .error (.invalidDirectory entry.directory)

def checkLoaded (registration : Registration π) (policy : π) : Except ModelError π :=
  if Policy.qualifiedName policy = registration.qualifiedName then .ok policy
  else .error (.typeMismatch registration.qualifiedName (Policy.qualifiedName policy))

/-- Loads a recorded policy. There may be none in its directory. -/
def loadEntry (registry : Registry π) (tree : FileTree) (model : Path) (entry : ModelEntry) :
    Except Error (Option π) := do
  let registration ← (resolveEntry registry entry).mapError .model
  match ← registration.load tree (model.join entry.directory) with
  | none => return none
  | some policy => return some (← (checkLoaded registration policy).mapError .model)

def ofLoaded (metadata : Metadata) (loaded : List (Option π)) : Ensemble π where
  policies := loaded.filterMap id
  trainedAt := some metadata.trainedAt
  domainFingerprint := metadata.domainFingerprint

def loadWarnings (metadata : Metadata) (loaded : List (Option π)) : List Warning :=
  (metadata.policies.zip loaded).filterMap fun (entry, policy) =>
    if policy.isNone then some (.policyNotLoaded entry.qualifiedName) else none

def load (registry : Registry π) (tree : FileTree) (model : Path) :
    Except Error (Ensemble π × List Warning) := do
  let metadata ← (Metadata.read tree model).mapError .model
  metadata.verify.mapError .model
  let loaded ← metadata.policies.mapM (loadEntry registry tree model)
  let ensemble := ofLoaded metadata loaded
  return (ensemble, loadWarnings metadata loaded ++ ensemble.warnings)

end Ensemble

end Dialogue
