import Dialogue.Policy.Spec
import Dialogue.Yaml.Document

namespace Dialogue.Spec

def configOfYaml (text : String) : Except ConfigError Json :=
  match Yaml.json? text with
  | some config => .ok config
  | none => .error .unreadable

def loadConfig (tree : FileTree) (path : Path) : Except Error Json :=
  match tree.read path with
  | .error failure => .error (.model (.io path failure))
  | .ok text => (configOfYaml text).mapError .config

end Dialogue.Spec
