import Workflow.Data.NameSet
import Workflow.Reminder.Param
import Workflow.Text.Case
import Workflow.Uuid

/-!
Instances of definitions and the tasks that people have to do in them.
-/
namespace Workflow

open Time (Instant)

inductive InstanceState where
  | active
  | complete
  | timeout
  | termination
deriving DecidableEq, Repr

namespace InstanceState

def text : InstanceState → String
  | active => "active"
  | complete => "complete"
  | timeout => "timeout"
  | termination => "termination"

/-- Only an active instance can change. -/
def isTerminal (s : InstanceState) : Bool := s != active

def ofName? : String → Option InstanceState
  | "active" => some active
  | "complete" => some complete
  | "timeout" => some timeout
  | "termination" => some termination
  | _ => none

inductive ParseError where
  | unknown (text : String)
deriving DecidableEq, Repr

def ParseError.message : ParseError → String
  | unknown text => s!"invalid instance state: '{text}'"

/-- Reads a state in letters of either case. -/
def parse (s : String) : Except ParseError InstanceState :=
  match ofName? (Text.lower s) with
  | some state => .ok state
  | none => .error (.unknown (Text.lower s))

theorem ofName?_text (s : InstanceState) : ofName? s.text = some s := by
  cases s <;> rfl

end InstanceState

/-- Tokens that found no way out, each waiting at one of the nodes. -/
structure Failure where
  nodes : List String
  message : String
  time : Instant
deriving DecidableEq, Repr

structure Instance where
  id : Uuid
  definitionId : String
  definitionVersion : UInt32
  /-- Where tokens wait: at open tasks, at joins, and where no way leads on. -/
  currentNodes : NameSet
  vars : Variables
  state : InstanceState
  /-- How many tokens have come to each join that has not fired yet. -/
  joinArrivals : Dict String UInt32
  failure : Option Failure
  reminder : Option ReminderParam
  deadline : Option Instant
  createdAt : Instant
  updatedAt : Instant
  /-- How often the instance has been written. -/
  revision : UInt64
deriving DecidableEq, Repr

namespace Instance

def isActive (i : Instance) : Bool := i.state == .active

def isFlagged (i : Instance) : Bool := i.failure.isSome

/-- An active instance without tokens that was never written. -/
def create (id : Uuid) (definitionId : String) (version : UInt32) (vars : Variables)
    (now : Instant) : Instance :=
  ⟨id, definitionId, version, ∅, vars, .active, ∅, none, none, none, now, now, 0⟩

end Instance

inductive TaskState where
  | created
  | completed
  | terminated
deriving DecidableEq, Repr

namespace TaskState

def text : TaskState → String
  | created => "created"
  | completed => "completed"
  | terminated => "terminated"

def ofName? : String → Option TaskState
  | "created" => some created
  | "completed" => some completed
  | "terminated" => some terminated
  | _ => none

theorem ofName?_text (s : TaskState) : ofName? s.text = some s := by
  cases s <;> rfl

end TaskState

structure Task where
  id : Uuid
  instanceId : Uuid
  node : String
  assignees : List String
  state : TaskState
  /-- What was handed in at completion. -/
  output : Variables
  createdAt : Instant
  completedAt : Option Instant
deriving DecidableEq, Repr

namespace Task

def isOpen (t : Task) : Bool := t.state == .created

/-- An open task. -/
def create (id instanceId : Uuid) (node : String) (assignees : List String) (now : Instant) : Task :=
  ⟨id, instanceId, node, assignees, .created, ∅, now, none⟩

end Task

end Workflow
