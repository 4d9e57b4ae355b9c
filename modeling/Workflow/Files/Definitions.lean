import Workflow.Definition.Reader
import Workflow.Files.Tree

/-!
Definitions in files.
-/
namespace Workflow.Files

namespace Tree

def loadDefinition (t : Tree) (path : String) : Except DefinitionError Definition := do
  let text ← (t.read path).mapError .file
  Definition.parse text

/-- Writes a definition as YAML, and makes the directories above the file first. -/
def saveDefinition (t : Tree) (path : String) (d : Definition) : Except DefinitionError Tree :=
  (t.place path (.text d.print)).mapError .file

/-- Whether a file of this name is taken for a definition. -/
def isDefinitionName (name : String) : Bool :=
  match Path.extension? name with
  | some ext => ext == "yaml" || ext == "yml"
  | none => false

/-- The steps to each file below a place that holds a definition. -/
def definitionsBelow (t : Tree) (p : Path) : List (Path × Definition) :=
  (t.below p).filterMap fun e =>
    match e.2, e.1.getLast? with
    | .text content, some name =>
      if isDefinitionName name then
        match Definition.parse content with
        | .ok d => some (e.1, d)
        | .error _ => none
      else none
    | _, _ => none

/-- The definitions in the files at any depth of a directory, by their paths in order. Files that
hold none are passed over, and nothing is found in a directory that does not exist. -/
def discover (t : Tree) (dir : String) : Except DefinitionError (List (String × Definition)) :=
  match t.resolve dir with
  | .error _ => .ok []
  | .ok p =>
    match t.entry? p with
    | none => .ok []
    | some .directory =>
      .ok ((t.definitionsBelow p).map fun e => (e.1.foldl Path.join dir, e.2))
    | some _ => .error (.file .notDirectory)

end Tree

end Workflow.Files
