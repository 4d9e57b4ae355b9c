import Workflow.Definition.Basic
import Workflow.Instance.Basic
import Workflow.Store.Error

/-!
Where definitions, instances and tasks are kept. An instance is written only over the revision that
the write was based on, and a step's instance and tasks are written together or not at all.
-/
namespace Workflow

structure Store where
  definitions : Dict String Definition
  instances : Dict Uuid Instance
  tasks : Dict Uuid Task
  /-- The tasks of each instance in the order in which they were created. -/
  taskOrder : Dict Uuid (List Uuid)
deriving DecidableEq, Repr

/-- All that one step writes. The instance carries the revision that the step started from. -/
structure Commit where
  record : Instance
  created : List Task
  updated : List Task
deriving DecidableEq, Repr

namespace Store

def empty : Store := ⟨∅, ∅, ∅, ∅⟩

instance : EmptyCollection Store := ⟨empty⟩
instance : Inhabited Store := ⟨empty⟩

def definition? (s : Store) (id : String) : Option Definition := s.definitions.get? id

/-- Keeps a definition in the place of an earlier one of the same id. -/
def putDefinition (s : Store) (d : Definition) : Store :=
  { s with definitions := s.definitions.insert d.id d }

def instance? (s : Store) (id : Uuid) : Option Instance := s.instances.get? id

def task? (s : Store) (id : Uuid) : Option Task := s.tasks.get? id

/-- The tasks of an instance in the order in which they were created. -/
def tasksOf (s : Store) (id : Uuid) : List Task :=
  ((s.taskOrder.get? id).getD []).filterMap s.task?

/-- Whether an instance comes before another in listings: the older one, or that of the lesser id. -/
def listedBefore (i j : Instance) : Bool :=
  i.createdAt < j.createdAt || (i.createdAt == j.createdAt && i.id.le j.id)

def activeInstances (s : Store) : List Instance :=
  ((s.instances.entries.map Prod.snd).filter Instance.isActive).mergeSort listedBefore

def checkRevision (s : Store) (i : Instance) : Except StoreError Unit :=
  match s.instance? i.id with
  | none => if i.revision = 0 then .ok () else .error (.missing i.id i.revision)
  | some stored =>
    if stored.revision = i.revision then .ok ()
    else .error (.stale i.id stored.revision i.revision)

/-- Keeps an instance as the revision after the one it carries. -/
def putInstance (s : Store) (i : Instance) : Store :=
  { s with instances := s.instances.insert i.id { i with revision := i.revision + 1 } }

/-- Writes an instance; the new revision comes back. -/
def saveInstance (s : Store) (i : Instance) : Except StoreError (UInt64 × Store) := do
  s.checkRevision i
  return (i.revision + 1, s.putInstance i)

def checkCreated (s : Store) (owner : Uuid) : List Task → Except StoreError Unit
  | [] => .ok ()
  | t :: ts =>
    if t.instanceId ≠ owner then .error (.foreignTask t.id t.instanceId owner)
    else if s.tasks.contains t.id then .error (.taskExists t.id)
    else checkCreated s owner ts

def checkUpdated (s : Store) (ts : List Task) : Except StoreError Unit :=
  if ts.all fun t => s.tasks.contains t.id then .ok () else .error .notFound

def updateTask (s : Store) (t : Task) : Store := { s with tasks := s.tasks.insert t.id t }

/-- Keeps a task and lists it as the last one of an instance. -/
def createTask (owner : Uuid) (s : Store) (t : Task) : Store :=
  { s.updateTask t with
    taskOrder := s.taskOrder.insert owner ((s.taskOrder.get? owner).getD [] ++ [t.id]) }

/-- Writes a step; the new revision comes back. -/
def commit (s : Store) (c : Commit) : Except StoreError (UInt64 × Store) := do
  s.checkRevision c.record
  s.checkCreated c.record.id c.created
  s.checkUpdated c.updated
  let s := c.created.foldl (createTask c.record.id) s
  let s := c.updated.foldl updateTask s
  return (c.record.revision + 1, s.putInstance c.record)

/-- How many of each there are. -/
def text (s : Store) : String :=
  s!"MemoryProcessRepository \x7b definitions: {s.definitions.size}, " ++
    s!"instances: {s.instances.size}, tasks: {s.tasks.size} \x7d"

end Store

end Workflow
