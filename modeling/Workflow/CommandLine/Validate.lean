import Workflow.CommandLine.Outcome
import Workflow.Engine.Operations
import Workflow.Files.Definitions
import Workflow.Text.Grid

/-!
The command that checks the definitions in a file or below a directory.
-/
namespace Workflow.CommandLine

inductive Verdict where
  | valid (d : Definition)
  | invalid (d : Definition) (fault : ConfigurationError)
  | unreadable (fault : DefinitionError)
deriving DecidableEq, Repr

namespace Verdict

def definition? : Verdict → Option Definition
  | valid d | invalid d _ => some d
  | unreadable _ => none

def fault? : Verdict → Option String
  | valid _ => none
  | invalid _ fault => some (EngineError.configuration fault).message
  | unreadable fault => some fault.message

def isValid (v : Verdict) : Bool := v.fault?.isNone

end Verdict

structure Checked where
  path : String
  verdict : Verdict
deriving DecidableEq, Repr

def judge (e : Engine) (d : Definition) : Verdict :=
  match e.check d with
  | .ok () => .valid d
  | .error fault => .invalid d fault

def judgeFile (e : Engine) (files : Files.Tree) (path : String) : Verdict :=
  match files.loadDefinition path with
  | .ok d => judge e d
  | .error fault => .unreadable fault

/-! ### As a value -/

def Checked.toValue (c : Checked) : Value :=
  let d := c.verdict.definition?
  .object [("path", .string c.path), ("id", orNull (fun d => .string d.id) d),
    ("version", orNull (fun d => wholeNumber d.version.toNat) d),
    ("nodes", orNull (fun d => wholeNumber d.nodes.length) d),
    ("valid", .bool c.verdict.isValid), ("error", orNull .string c.verdict.fault?)]

/-! ### As text -/

/-- Groups between double bars, and expressions between double ampersands. -/
def conditionText (c : Condition) : String :=
  " || ".intercalate (c.groups.map (" && ".intercalate ·))

def transitionText (t : Transition) : String :=
  match t.condition with
  | none => t.target
  | some c => t.target ++ " [" ++ conditionText c ++ "]"

def nodeRow (n : Node) : List String :=
  [n.label, n.kind.name, ", ".intercalate n.assignees,
    "\n".intercalate (n.transitions.map transitionText)]

def nodeGrid (d : Definition) : Text.Grid :=
  ⟨["Node", "Kind", "Assignees", "Transitions"], d.nodes.map nodeRow⟩

def validLines (path : String) (d : Definition) : List String :=
  ["", s!"  ✓ {d.id} ({path})"] ++ (d.name.map fun n => s!"  Name: {n}").toList ++
    [s!"  Version: {d.version.toNat}", ""] ++ (nodeGrid d).lines

def faultLines (path fault : String) : List String := ["", s!"  ✗ {path}", s!"  {fault}"]

def Checked.lines (c : Checked) : List String :=
  match c.verdict with
  | .valid d => validLines c.path d
  | .invalid _ fault => faultLines c.path (EngineError.configuration fault).message
  | .unreadable fault => faultLines c.path fault.message

/-! ### The command -/

def reportChecked (json : Bool) (checked : List Checked) : Outcome :=
  let output :=
    if json then jsonText (.array (checked.map Checked.toValue))
    else textOf (checked.flatMap Checked.lines)
  match (checked.filter fun c => !c.verdict.isValid).length with
  | 0 => .done output
  | n => ⟨1, output, some s!"{n} definition(s) failed validation", []⟩

def validate (e : Engine) (files : Files.Tree) (json : Bool) (path : String) : Outcome :=
  if files.isDirectory path then
    match files.discover path with
    | .error _ => .failed s!"Failed to scan {path}"
    | .ok [] => .failed s!"No valid definition files found under {path}"
    | .ok found => reportChecked json (found.map fun f => ⟨f.1, judge e f.2⟩)
  else reportChecked json [⟨path, judgeFile e files path⟩]

end Workflow.CommandLine
