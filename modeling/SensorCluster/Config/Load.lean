import SensorCluster.Config
import SensorCluster.Config.Conversion
import SensorCluster.Text.Blank
import SensorCluster.Toml.Reader

/-!
# Loading a configuration

The configuration of a node is made from a file, if one is named, and from the environment, which
wins. What neither of them says has its default.
-/

namespace SensorCluster

/-- A configuration file. -/
structure ConfigFile where
  /-- What its name ends in. -/
  extension : String
  /-- Its text, if there is such a file. -/
  content : Option String
  deriving DecidableEq, Repr

namespace ConfigFile

/-- The settings of a file. Its text may begin with a mark of its encoding, and so may the document
behind that. -/
def settings (f : ConfigFile) : Except ClusterError (List (String × Setting)) :=
  match f.content with
  | none => .error (.configSource "no such file")
  | some content =>
    if f.extension ≠ "toml" then .error (.configSource "unknown kind of file")
    else match Toml.readDocument? (String.ofList (Text.dropMark content.toList)) with
      | none => .error (.configSource "no TOML document")
      | some members => .ok (Setting.ofMembers members)

end ConfigFile

namespace Config

/-- The settings of a file, if there is one, with those of the environment over them. -/
def settings (file : Option ConfigFile) (environment : List (String × String)) :
    Except ClusterError Setting := do
  let fromFile ← match file with
    | none => pure []
    | some f => f.settings
  let members := Setting.overlayNamed [] fromFile
  return .table (Setting.overlayNamed members (Environment.settings environment))

/-- Loads the configuration of a node. -/
def load (file : Option ConfigFile) (environment : List (String × String)) :
    Except ClusterError Config := do
  let settings ← settings file environment
  match Config.read? Setting.decoding settings with
  | none => .error (.configSource "a setting has the wrong type, or is missing")
  | some config =>
    config.validate
    return config

end Config

end SensorCluster
