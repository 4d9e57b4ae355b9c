import Workflow.Definition.Basic
import Workflow.Engine.Error
import Workflow.Instance.Basic
import Workflow.Supply
import Workflow.Text.Quoted

/-!
Handlers that definitions refer to by name. Flow handlers change the variables when a token enters a
node, and task handlers decide which tasks a task node creates.
-/
namespace Workflow

open Time (Instant)

/-- What a handler gets to see of the node that a token enters. -/
structure Execution where
  instanceId : Uuid
  definition : Definition
  node : Node
  vars : Variables
  now : Instant
deriving DecidableEq, Repr

/-- The variables afterwards. What a handler does may depend on how often handlers ran before. -/
abbrev FlowHandler := (earlier : Nat) → Execution → Except String Variables

/-- The tasks to create, with ids from the supply; none lets the token pass through the node. -/
abbrev TaskHandler := (earlier : Nat) → Execution → Supply → Except String (List Task) × Supply

namespace TaskHandler

/-- One task for all assignees together. -/
def single : TaskHandler := fun _ x supply =>
  let (id, supply) := supply.fresh
  (.ok [.create id x.instanceId x.node.id x.node.assignees x.now], supply)

/-- One open task for each of the groups of assignees. -/
def tasksFor (x : Execution) : (groups : List (List String)) → Supply → List Task × Supply
  | [], supply => ([], supply)
  | assignees :: groups, supply =>
    let (id, supply) := supply.fresh
    let (tasks, supply) := tasksFor x groups supply
    (.create id x.instanceId x.node.id assignees x.now :: tasks, supply)

/-- One task for each assignee, of whom there has to be one. -/
def perAssignee : TaskHandler := fun _ x supply =>
  if x.node.assignees.isEmpty then
    (.error s!"task node '{x.node.id}' has no assignees", supply)
  else
    let (tasks, supply) := tasksFor x (x.node.assignees.map fun a => [a]) supply
    (.ok tasks, supply)

end TaskHandler

structure Registry where
  flow : Dict String FlowHandler
  task : Dict String TaskHandler

namespace Registry

/-- The task handler of nodes that name none. -/
def defaultName : String := "default"

def perAssigneeName : String := "per_assignee"

def standard : Registry :=
  ⟨∅, .ofList [(defaultName, .single), (perAssigneeName, .perAssignee)]⟩

instance : Inhabited Registry := ⟨standard⟩

/-- Adds a flow handler in the place of an earlier one of the same name. -/
def withFlow (r : Registry) (name : String) (h : FlowHandler) : Registry :=
  { r with flow := r.flow.insert name h }

/-- Adds a task handler in the place of an earlier one of the same name. -/
def withTask (r : Registry) (name : String) (h : TaskHandler) : Registry :=
  { r with task := r.task.insert name h }

def hasFlow (r : Registry) (name : String) : Bool := r.flow.contains name

def hasTask (r : Registry) (name : String) : Bool := r.task.contains name

def flowHandler (r : Registry) (name : String) : Except ConfigurationError FlowHandler :=
  match r.flow.get? name with
  | some h => .ok h
  | none => .error (.unknownFlowHandler name)

def taskHandler (r : Registry) (name : Option String) : Except ConfigurationError TaskHandler :=
  match r.task.get? (name.getD defaultName) with
  | some h => .ok h
  | none => .error (.unknownTaskHandler (name.getD defaultName))

def text (r : Registry) : String :=
  s!"HandlerRegistry \x7b flow: {Text.quotedList r.flow.keys}, " ++
    s!"task: {Text.quotedList r.task.keys} \x7d"

end Registry

end Workflow
