import Workflow.Definition.Codec
import Workflow.Definition.Validation
import Workflow.Yaml.Writer

/-!
Definitions as YAML text. What is read is validated at once.
-/
namespace Workflow.Definition

def parse (text : String) : Except DefinitionError Definition :=
  match (Yaml.read? text).bind ofDocument? with
  | none => .error .unreadable
  | some d =>
    match d.validate with
    | .ok () => .ok d
    | .error e => .error e

def print (d : Definition) : String := Yaml.write d.toValue

end Workflow.Definition
