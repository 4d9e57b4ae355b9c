import Workflow.Instance.Basic

/-!
What an engine notes down while it works: remarks, and the spans of time in which it makes them.
-/
namespace Workflow

inductive Level where
  | trace | debug | info | warn | error
deriving DecidableEq, Repr

namespace Level

def text : Level → String
  | trace => "TRACE"
  | debug => "DEBUG"
  | info => "INFO"
  | warn => "WARN"
  | error => "ERROR"

def rank : Level → Nat
  | trace => 0
  | debug => 1
  | info => 2
  | warn => 3
  | error => 4

end Level

/-- What a span tells of itself. -/
inductive Attribute where
  | definitionId | instanceId | taskId | nodeId | instanceState
deriving DecidableEq, Repr

def Attribute.name : Attribute → String
  | definitionId => "procflow.definition_id"
  | instanceId => "procflow.instance_id"
  | taskId => "procflow.task_id"
  | nodeId => "procflow.node_id"
  | instanceState => "procflow.instance_state"

inductive SpanKind where
  /-- A whole run from the command line. -/
  | run
  | start
  | completeTask
deriving DecidableEq, Repr

namespace SpanKind

def name : SpanKind → String
  | run => "pflow.run"
  | start => "procflow.start"
  | completeTask => "procflow.complete_task"

/-- The part of the program that a span belongs to. -/
def target : SpanKind → String
  | run => "pflow::cli::run"
  | _ => "procflow_core::engine"

def level (_ : SpanKind) : Level := .info

/-- What a span of the kind can tell of itself. -/
def attributes : SpanKind → List Attribute
  | run => [.definitionId, .instanceId, .instanceState]
  | start => [.definitionId, .instanceId]
  | completeTask => [.taskId, .instanceId, .nodeId]

end SpanKind

inductive Remark where
  | unreachableNode (definition node : String)
  | deployed (definition : String) (version : UInt32) (nodes : Nat)
  | starting (instanceId : Uuid) (definition : String)
  | taskCompleted (instanceId task : Uuid) (node : String)
  | othersOpen (instanceId : Uuid) (node : String)
  | releasing (instanceId : Uuid) (node : String) (arrivals : UInt32)
  | entering (instanceId : Uuid) (node kind : String)
  | passing (instanceId : Uuid) (node : String)
  | taskCreated (instanceId : Uuid) (node : String) (task : Uuid)
  | arrived (instanceId : Uuid) (node : String) (arrivals expected : UInt32)
  | branchEnded (instanceId : Uuid) (node : String)
  | noWayOut (instanceId : Uuid) (node : String)
  | completed (instanceId : Uuid) (definition : String)
  | stored (instanceId : Uuid) (revision : UInt64) (created updated : Nat)
  | committed (instanceId : Uuid) (revision : UInt64)
  | parked (instanceId : Uuid) (node : String)
deriving DecidableEq, Repr

namespace Remark

def level : Remark → Level
  | unreachableNode _ _ | noWayOut _ _ | parked _ _ => .warn
  | deployed _ _ _ | starting _ _ | taskCompleted _ _ _ | taskCreated _ _ _ | completed _ _ => .info
  | stored _ _ _ _ => .trace
  | _ => .debug

/-- The part of the program that makes the remark. -/
def target : Remark → String
  | unreachableNode _ _ => "procflow_core::definition"
  | stored _ _ _ _ => "procflow_infra::memory"
  | parked _ _ => "pflow::cli::run"
  | _ => "procflow_core::engine"

def message : Remark → String
  | unreachableNode _ _ => "node is unreachable from the start node"
  | deployed _ _ _ => "deployed process definition"
  | starting _ _ => "starting process instance"
  | taskCompleted _ _ _ => "task completed"
  | othersOpen _ _ => "other tasks still open on node, not advancing"
  | releasing _ _ _ => "no pending branch can reach join, releasing"
  | entering _ _ _ => "entering node"
  | passing _ _ => "no tasks created, passing through"
  | taskCreated _ _ _ => "task created"
  | arrived _ _ _ _ => "token arrived at join"
  | branchEnded _ _ => "branch ended"
  | noWayOut _ _ => "no satisfied transition, flagging instance"
  | completed _ _ => "instance completed"
  | stored _ _ _ _ => "step stored"
  | committed _ _ => "step committed"
  | parked _ _ => "instance parked on routing failure"

/-- What the remark is about, in the order in which it is told. -/
def fields : Remark → List (String × String)
  | unreachableNode d node => [("definition", d), ("node_id", node)]
  | deployed d version nodes =>
    [("definition_id", d), ("version", toString version.toNat), ("nodes", toString nodes)]
  | starting i d => [("instance_id", i.text), ("definition_id", d)]
  | taskCompleted i task node =>
    [("instance_id", i.text), ("task_id", task.text), ("node_id", node)]
  | releasing i node arrivals =>
    [("instance_id", i.text), ("node_id", node), ("arrivals", toString arrivals.toNat)]
  | entering i node kind => [("instance_id", i.text), ("node_id", node), ("kind", kind)]
  | taskCreated i node task => [("instance_id", i.text), ("node_id", node), ("task_id", task.text)]
  | arrived i node arrivals expected =>
    [("instance_id", i.text), ("node_id", node), ("arrivals", toString arrivals.toNat),
      ("expected", toString expected.toNat)]
  | completed i d => [("instance_id", i.text), ("definition_id", d)]
  | stored i revision created updated =>
    [("instance_id", i.text), ("revision", toString revision.toNat),
      ("created", toString created), ("updated", toString updated)]
  | committed i revision => [("instance_id", i.text), ("revision", toString revision.toNat)]
  | othersOpen i node | passing i node | branchEnded i node | noWayOut i node | parked i node =>
    [("instance_id", i.text), ("node_id", node)]

end Remark

inductive TraceEntry where
  | remark (r : Remark)
  | opened (span : SpanKind) (attributes : List (Attribute × String))
  /-- Something that the innermost open span comes to tell. -/
  | recorded (what : Attribute) (value : String)
  | closed
deriving DecidableEq, Repr

end Workflow
