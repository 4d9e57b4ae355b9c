import Workflow.Instance.Codec

/-!
What listeners hear of.
-/
namespace Workflow

open Time (Instant)

inductive TaskEvent where
  | created (task : Task)
  | completed (task : Task)
  /-- The task was closed along with its instance. -/
  | terminated (task : Task)
deriving DecidableEq, Repr

inductive InstanceEvent where
  | started (instanceId : Uuid) (definitionId : String)
  | completed (instanceId : Uuid) (definitionId : String) (time : Instant)
  | timedOut (instanceId : Uuid) (definitionId : String) (time : Instant)
  | terminated (instanceId : Uuid) (definitionId : String) (time : Instant)
  | routingFailed (instanceId : Uuid) (definitionId : String) (node : String)
deriving DecidableEq, Repr

structure ReminderEvent where
  instanceId : Uuid
  definitionId : String
  /-- The node that the reminder belongs to, or nothing for one of the whole instance. -/
  node : Option String
  /-- The open tasks it is about. -/
  tasks : List Uuid
  occurrence : Instant
  firedAt : Instant
deriving DecidableEq, Repr

inductive EventKind where
  | task
  | instanceRecord
  | reminder
deriving DecidableEq, Repr

inductive Event where
  | task (e : TaskEvent)
  | instanceRecord (e : InstanceEvent)
  | reminder (e : ReminderEvent)
deriving DecidableEq, Repr

namespace EventKind

def text : EventKind → String
  | task => "task"
  | instanceRecord => "instance"
  | reminder => "reminder"

def ofText? (s : String) : Option EventKind :=
  [task, instanceRecord, reminder].find? fun k => k.text == s

end EventKind

def Event.kind : Event → EventKind
  | task _ => .task
  | instanceRecord _ => .instanceRecord
  | reminder _ => .reminder

/-- The type of an event and the members that go with it, as fields or as a list. -/
def tagged? : Document → Option (String × Document)
  | .list true (tag :: rest) => tag.text?.map fun t => (t, .list true rest)
  | .record fields => do
    let named ← (Document.record fields).fields?
    let tag ← Record.member ["type"] named
    let tag ← Record.required Document.text? tag
    some (tag, .record (fields.filter fun f => f.1.text? ≠ some "type"))
  | _ => none

namespace TaskEvent

def type : TaskEvent → String
  | created _ => "created"
  | completed _ => "completed"
  | terminated _ => "terminated"

def task : TaskEvent → Task
  | created t => t
  | completed t => t
  | terminated t => t

def toValue (e : TaskEvent) : Value :=
  .object [("type", .string e.type), ("task", e.task.toValue)]

def ofDocument? (d : Document) : Option TaskEvent := do
  let (type, rest) ← tagged? d
  match rest.members? [["task"]] with
  | some [task] =>
    let task ← Record.required Task.ofDocument? task
    match type with
    | "created" => some (created task)
    | "completed" => some (completed task)
    | "terminated" => some (terminated task)
    | _ => none
  | _ => none

end TaskEvent

namespace InstanceEvent

def type : InstanceEvent → String
  | started _ _ => "started"
  | completed _ _ _ => "completed"
  | timedOut _ _ _ => "timed_out"
  | terminated _ _ _ => "terminated"
  | routingFailed _ _ _ => "routing_failed"

def instanceId : InstanceEvent → Uuid
  | started i _ => i
  | completed i _ _ => i
  | timedOut i _ _ => i
  | terminated i _ _ => i
  | routingFailed i _ _ => i

def definitionId : InstanceEvent → String
  | started _ d => d
  | completed _ d _ => d
  | timedOut _ d _ => d
  | terminated _ d _ => d
  | routingFailed _ d _ => d

def time? : InstanceEvent → Option Instant
  | completed _ _ t => some t
  | timedOut _ _ t => some t
  | terminated _ _ t => some t
  | _ => none

def node? : InstanceEvent → Option String
  | routingFailed _ _ n => some n
  | _ => none

def toValue (e : InstanceEvent) : Value :=
  .object ([("type", .string e.type), ("instance_id", e.instanceId.toValue),
      ("definition_id", .string e.definitionId)] ++
    optionalField "at" Instant.toValue e.time? ++ optionalField "node_id" .string e.node?)

/-- An event of the definition and time that a document gives. -/
def timed? (make : Uuid → String → Instant → InstanceEvent) (d : Document) : Option InstanceEvent :=
  match d.members? [["instance_id"], ["definition_id"], ["at"]] with
  | some [i, definition, time] => do
    let i ← Record.required Uuid.ofDocument? i
    let definition ← Record.required Document.text? definition
    let time ← Record.required Instant.ofDocument? time
    some (make i definition time)
  | _ => none

def ofDocument? (d : Document) : Option InstanceEvent := do
  let (type, rest) ← tagged? d
  match type with
  | "started" =>
    match rest.members? [["instance_id"], ["definition_id"]] with
    | some [i, definition] =>
      let i ← Record.required Uuid.ofDocument? i
      let definition ← Record.required Document.text? definition
      some (started i definition)
    | _ => none
  | "completed" => timed? completed rest
  | "timed_out" => timed? timedOut rest
  | "terminated" => timed? terminated rest
  | "routing_failed" =>
    match rest.members? [["instance_id"], ["definition_id"], ["node_id"]] with
    | some [i, definition, node] =>
      let i ← Record.required Uuid.ofDocument? i
      let definition ← Record.required Document.text? definition
      let node ← Record.required Document.text? node
      some (routingFailed i definition node)
    | _ => none
  | _ => none

end InstanceEvent

namespace ReminderEvent

def members : List (List String) :=
  [["instance_id"], ["definition_id"], ["node_id"], ["task_ids"], ["occurrence"], ["fired_at"]]

def toValue (e : ReminderEvent) : Value :=
  .object ([("instance_id", e.instanceId.toValue), ("definition_id", .string e.definitionId)] ++
    optionalField "node_id" .string e.node ++
    [("task_ids", .array (e.tasks.map Uuid.toValue)), ("occurrence", e.occurrence.toValue),
      ("fired_at", e.firedAt.toValue)])

def ofDocument? (d : Document) : Option ReminderEvent :=
  match d.members? members with
  | some [i, definition, node, tasks, occurrence, fired] => do
    let i ← Record.required Uuid.ofDocument? i
    let definition ← Record.required Document.text? definition
    let node ← Document.optional Document.text? node
    let tasks ← Record.defaulting [] (Document.list? Uuid.ofDocument?) tasks
    let occurrence ← Record.required Instant.ofDocument? occurrence
    let fired ← Record.required Instant.ofDocument? fired
    some ⟨i, definition, node, tasks, occurrence, fired⟩
  | _ => none

end ReminderEvent

namespace Event

def type : Event → String
  | task e => e.type
  | instanceRecord e => e.type
  | reminder _ => "reminder"

def instanceId : Event → Uuid
  | task e => e.task.instanceId
  | instanceRecord e => e.instanceId
  | reminder e => e.instanceId

def node? : Event → Option String
  | task e => some e.task.node
  | instanceRecord e => e.node?
  | reminder e => e.node

def toValue : Event → Value
  | task e => e.toValue
  | instanceRecord e => e.toValue
  | reminder e => e.toValue

end Event

end Workflow
