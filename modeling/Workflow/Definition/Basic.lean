import Workflow.Guard.Condition
import Workflow.Reminder.Param

/-!
Process definitions: graphs of nodes joined by transitions, which may be guarded by conditions.
-/
namespace Workflow

structure Transition where
  target : String
  condition : Option Condition
deriving DecidableEq, Repr

namespace Transition

def plain (target : String) : Transition := ⟨target, none⟩

def guarded (target : String) (condition : Condition) : Transition := ⟨target, some condition⟩

end Transition

inductive NodeKind where
  | start
  /-- Work for people; the handler decides which tasks there are. -/
  | task (assignees : List String) (taskHandler : Option String) (reminder : Option ReminderParam)
  | condition
  /-- Waits for a number of arrivals, by default one for each transition that leads here. -/
  | join (expected : Option UInt32)
  | stop
deriving DecidableEq, Repr

namespace NodeKind

def name : NodeKind → String
  | start => "start"
  | task _ _ _ => "task"
  | condition => "condition"
  | join _ => "join"
  | stop => "end"

def isStart : NodeKind → Bool
  | start => true
  | _ => false

def isStop : NodeKind → Bool
  | stop => true
  | _ => false

end NodeKind

structure Node where
  id : String
  name : Option String
  kind : NodeKind
  /-- The flow handler run when a token enters. -/
  handler : Option String
  transitions : List Transition
deriving DecidableEq, Repr

namespace Node

def label (n : Node) : String := n.name.getD n.id

def assignees (n : Node) : List String :=
  match n.kind with
  | .task assignees _ _ => assignees
  | _ => []

/-- The reminder of a task node. -/
def reminder (n : Node) : Option ReminderParam :=
  match n.kind with
  | .task _ _ r => r
  | _ => none

def targets (n : Node) : List String := n.transitions.map (·.target)

end Node

structure Definition where
  id : String
  version : UInt32
  name : Option String
  description : Option String
  nodes : List Node
  reminder : Option ReminderParam
  timeoutSeconds : Option UInt64
deriving DecidableEq, Repr

namespace Definition

/-- The first node of this id. -/
def node? (d : Definition) (id : String) : Option Node := d.nodes.find? fun n => n.id == id

def startNode? (d : Definition) : Option Node := d.nodes.find? fun n => n.kind.isStart

def transitions (d : Definition) : List Transition := d.nodes.flatMap (·.transitions)

/-- How many transitions lead to this id. -/
def incomingCount (d : Definition) (id : String) : Nat :=
  (d.transitions.filter fun t => t.target == id).length

/-- Every guard expression with the node it leads out of. -/
def guards (d : Definition) : List (Node × String) :=
  d.nodes.flatMap fun n => n.transitions.flatMap fun t =>
    match t.condition with
    | some c => c.atoms.map fun a => (n, a)
    | none => []

end Definition

end Workflow
