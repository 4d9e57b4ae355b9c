import Workflow.Config
import Workflow.Files.Tree
import Workflow.Toml.Reader

/-!
The settings as TOML text, and where the file of them lies.
-/
namespace Workflow.Config

/-- The name of the settings file in the data directory. -/
def fileName : String := "engine.toml"

def ofText? (s : String) : Option Config := (Toml.read? s).bind ofDocument?

/-- The settings of a data directory: the default ones if their file cannot be read. -/
def load (files : Files.Tree) (dataDir : String) : Config :=
  match files.read (Files.Path.join dataDir fileName) with
  | .ok text => (ofText? text).getD default
  | .error _ => default

/-- The data directory: the one that is asked for, or else one below the home directory. -/
def dataDirectory (asked home : Option String) : String :=
  match asked, home with
  | some dir, _ => dir
  | none, some home => Files.Path.join home ".procflow"
  | none, none => ".procflow"

end Workflow.Config
