import Workflow.Engine.Script

/-!
A world with trouble in it. Its store can be told to refuse the next call of a method, and to let a
rival write an instance first.
-/
namespace Workflow.Simulation

/-- The methods of a store. -/
inductive Method where
  | loadDefinition | saveDefinition | loadInstance | saveInstance | listActive | loadTask
  | listTasks | commit
deriving DecidableEq, Repr

namespace Method

def text : Method → String
  | loadDefinition => "load_definition"
  | saveDefinition => "save_definition"
  | loadInstance => "load_instance"
  | saveInstance => "save_instance"
  | listActive => "list_active_instances"
  | loadTask => "load_task"
  | listTasks => "list_tasks"
  | commit => "commit_step"

def all : List Method :=
  [loadDefinition, saveDefinition, loadInstance, saveInstance, listActive, loadTask, listTasks,
    commit]

def ofText? (s : String) : Option Method := all.find? fun m => m.text == s

end Method

/-- The method that a call belongs to, if it goes to the store, and how the call is refused. -/
def refusal? : (c : Call) → Option (Method × (StoreError → c.Answer))
  | .loadDefinition _ => some (.loadDefinition, .error)
  | .saveDefinition _ => some (.saveDefinition, .error)
  | .loadInstance _ => some (.loadInstance, .error)
  | .saveInstance _ => some (.saveInstance, .error)
  | .listActive => some (.listActive, .error)
  | .loadTask _ => some (.loadTask, .error)
  | .listTasks _ => some (.listTasks, .error)
  | .commit _ => some (.commit, .error)
  | .lookUp _ | .remember _ _ | .acquire | .release => none

/-- The instance that a call writes. -/
def written? : Call → Option Uuid
  | .saveInstance i => some i.id
  | .commit c => some c.record.id
  | _ => none

structure Outside where
  world : World
  /-- The refusals to come, one for a method. -/
  faults : List (Method × StoreError)
  /-- Whether a rival is about to write. -/
  rival : Bool

namespace Outside

def ofWorld (w : World) : Outside := ⟨w, [], false⟩

def refuseNext (o : Outside) (m : Method) (e : StoreError) : Outside :=
  { o with faults := (m, e) :: o.faults.filter fun f => f.1 != m }

/-- Writes a stored instance once more as it is. -/
def writeAgain (s : Store) (id : Uuid) : Store :=
  match s.instance? id with
  | some i => s.putInstance i
  | none => s

/-- Lets the rival write, if there is one and the call writes. -/
def letRival (o : Outside) (c : Call) : Outside :=
  match o.rival, written? c with
  | true, some id =>
    { o with world := { o.world with store := writeAgain o.world.store id }, rival := false }
  | _, _ => o

def answer (o : Outside) (c : Call) : c.Answer × Outside :=
  let fault := do
    let (m, refuse) ← refusal? c
    let e ← o.faults.lookup m
    some (refuse e, { o with faults := o.faults.filter fun f => f.1 != m })
  match fault with
  | some refused => refused
  | none =>
    let o := o.letRival c
    let (r, world) := o.world.answer c
    (r, { o with world })

end Outside

end Workflow.Simulation
