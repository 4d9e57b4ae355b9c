import Workflow.Definition.Validation
import Workflow.Definition.Codec
import Workflow.Engine.Action
import Workflow.Engine.Traversal

/-!
What an engine does for its callers: it deploys definitions, starts instances of them, and changes
instances until they are done. Whatever a step changes is written by one call at its end, so that a
step that fails writes nothing. A token that finds no way out is no such failure: the instance is
written with a note of it, and the caller is told afterwards.
-/
namespace Workflow.Engine

open Time (Instant Span)
open Action Attempt

/-! ### Definitions -/

/-- The handlers that a node names have to be there. -/
def checkHandlers (r : Registry) : List Node → Except ConfigurationError Unit
  | [] => .ok ()
  | n :: ns => do
    match n.handler with
    | some h => if !r.hasFlow h then throw (.missingFlowHandler n.id h)
    | none => pure ()
    match n.kind with
    | .task _ handler _ => discard (r.taskHandler handler)
    | _ => pure ()
    checkHandlers r ns

/-- The checks behind those of a definition's structure. -/
def checkUse (e : Engine) (d : Definition) : Except ConfigurationError Unit := do
  (d.validateGuards e.evaluator).mapError .definition
  d.validateReminders.mapError .definition
  checkHandlers e.registry d.nodes

/-- Whether a definition can be used with the evaluator and the handlers of an engine. -/
def check (e : Engine) (d : Definition) : Except ConfigurationError Unit := do
  d.validate.mapError .definition
  checkUse e d

/-- The nodes that the start does not lead to. -/
def unreachableNodes (d : Definition) : List Node :=
  match d.startNode? with
  | some start => d.unreachableFrom start.id
  | none => []

/-- Checks a definition, and remarks on nodes that nothing leads to. -/
def validate (e : Engine) (d : Definition) : Attempt Unit := do
  configured (d.validate.mapError .definition)
  for n in unreachableNodes d do
    remark (.unreachableNode d.id n.id)
  configured (checkUse e d)

def definitionKey (id : String) : String := "definition:" ++ id

/-- Puts the definition of an id into the cache if definitions are to be there. -/
def keepDefinition (e : Engine) (id : String) (d : Definition) : Action Unit :=
  if e.config.cacheDefinitions then ask (.remember (definitionKey id) d.toValue) else return

/-- Stores a definition that passes the checks in the place of an earlier one of its id. -/
def deploy (e : Engine) (d : Definition) : Action Unit := do
  validate e d
  accepted (← ask (.saveDefinition d))
  keepDefinition e d.id d
  remark (.deployed d.id d.version d.nodes.length)

def cachedDefinition (e : Engine) (id : String) : Action (Option Definition) := do
  if e.config.cacheDefinitions then
    return (← ask (.lookUp (definitionKey id))).bind Definition.ofValue?
  else return none

/-- The definition of an id, from the cache or else from the store. -/
def definition (e : Engine) (id : String) : Action Definition := do
  match ← cachedDefinition e id with
  | some d => return d
  | none =>
    match ← accepted (← ask (.loadDefinition id)) with
    | none => throw (.notFound (.definition id))
    | some d =>
      validate e d
      keepDefinition e id d
      return d

/-! ### Instances and tasks -/

def findInstance (id : Uuid) : Action Instance := do
  match ← accepted (← ask (.loadInstance id)) with
  | some i => return i
  | none => throw (.notFound (.instanceRecord id))

def activeInstance (id : Uuid) : Action Instance := do
  let i ← findInstance id
  if i.state.isTerminal then throw (.state (.instanceClosed id i.state.text)) else return i

/-- All tasks of an instance in the order in which they were created. -/
def tasks (instanceId : Uuid) : Action (List Task) := do
  accepted (← ask (.listTasks instanceId))

def openTasks (instanceId : Uuid) : Action (List Task) := do
  return (← tasks instanceId).filter Task.isOpen

/-! ### Steps -/

/-- Writes a step. -/
def commit (s : Step) : Action UInt64 := do
  let revision ← accepted (← ask (.commit s.commit))
  remark (.stored s.record.id revision s.created.length s.updated.length)
  return revision

def notifyFailures (e : Engine) (i : Instance) : List String → Attempt Unit
  | [] => return
  | n :: ns => do
    notify e.bus (.instanceRecord (.routingFailed i.id i.definitionId n))
    notifyFailures e i ns

/-- An active instance without tokens is complete. -/
def settle (e : Engine) (s : Step) : Attempt Step := do
  if s.record.isActive && s.record.currentNodes.isEmpty then
    remark (.completed s.record.id s.record.definitionId)
    notify e.bus (.instanceRecord (.completed s.record.id s.record.definitionId s.now))
    return s.close .complete
  else return s

/-- Tells of the tokens that got stuck, settles the instance and writes the step. -/
def finish (e : Engine) (s : Step) : Action Unit := do
  notifyFailures e s.record s.failures
  let s ← settle e s
  let revision ← commit s
  remark (.committed s.record.id revision)
  match s.failures with
  | n :: _ => throw (.routing s.record.id n)
  | [] => return

/-- The instant so many seconds later, if the calendar has it. -/
def deadlineAfter (now : Instant) (seconds : UInt64) : Option Instant :=
  (Span.ofSeconds? seconds.toNat).bind now.shift?

/-- A new instance of a definition. -/
def newInstance (e : Engine) (d : Definition) (id : Uuid) (vars : Variables) (now : Instant) :
    Instance :=
  { Instance.create id d.id d.version vars now with
    reminder := d.reminder
    deadline := (d.timeoutSeconds.or e.config.defaultTimeout).bind (deadlineAfter now) }

/-- How a step begins. -/
inductive Opening where
  /-- The tokens stay where they are. -/
  | stays (s : Step)
  | walks (d : Definition) (queue : List Token) (s : Step)
deriving DecidableEq, Repr

def follow (e : Engine) : Opening → Attempt Step
  | .stays s => return s
  | .walks d queue s => advance e d ⟨0, queue, s⟩

/-- Goes from the opening of a step to its end. -/
def carryOut (e : Engine) (opening : Action Opening) : Action Step := do
  let s ← follow e (← opening)
  finish e s
  return s

def startOpening (e : Engine) (definitionId : String) (vars : Variables) : Action Opening := do
  let d ← definition e definitionId
  match d.startNode? with
  | none => throw (.configuration (.noStart d.id))
  | some start => do
    let now ← Attempt.now
    let id ← Attempt.fresh
    trace (.recorded .instanceId id.text)
    remark (.starting id d.id)
    notify e.bus (.instanceRecord (.started id d.id))
    return .walks d [.enter start.id] (.begin (newInstance e d id vars now) now)

/-- Starts an instance of a definition; its id comes back. -/
def start (e : Engine) (definitionId : String) (vars : Variables) : Action Uuid :=
  within .start [(.definitionId, definitionId)] do
    return (← carryOut e (startOpening e definitionId vars)).record.id

/-- Whether another task of the node is still open. -/
def othersOpen (t : Task) (tasks : List Task) : Bool :=
  tasks.any fun u => u.id != t.id && u.node == t.node && u.isOpen

def openTask (id : Uuid) : Action Task := do
  match ← accepted (← ask (.loadTask id)) with
  | none => throw (.notFound (.task id))
  | some t => if t.isOpen then return t else throw (.state (.taskClosed id t.state.text))

/-- The task with what was handed in for it. -/
def handedIn (t : Task) (output : Variables) (now : Instant) : Task :=
  { t with state := .completed, output, completedAt := some now }

/-- The step in which a task of an instance is completed, before tokens move. -/
def completion (i : Instance) (t : Task) (output : Variables) (now : Instant) : Step :=
  (Step.begin { i with vars := i.vars.union output } now).update (handedIn t output now)

/-- An open task is completed. The instance takes over what was handed in, and goes on once no other
task is open at the node. -/
def completeOpening (e : Engine) (taskId : Uuid) (output : Variables) : Action Opening := do
  let task ← openTask taskId
  trace (.recorded .instanceId task.instanceId.text)
  trace (.recorded .nodeId task.node)
  let i ← activeInstance task.instanceId
  let d ← definition e i.definitionId
  let now ← Attempt.now
  remark (.taskCompleted task.instanceId task.id task.node)
  notify e.bus (.task (.completed (handedIn task output now)))
  let siblings ← tasks task.instanceId
  let s := completion i task output now
  if othersOpen task siblings then
    remark (.othersOpen i.id task.node)
    return .stays s
  else return .walks d [.leave task.node] (s.depart task.node)

def complete (e : Engine) (taskId : Uuid) (output : Variables) : Action Unit :=
  within .completeTask [(.taskId, taskId.text)] do
    discard (carryOut e (completeOpening e taskId output))

/-- Closes the open tasks among these, with an event for each. -/
def closeTasks (e : Engine) (s : Step) : List Task → Attempt Step
  | [] => return s
  | t :: ts => do
    if t.isOpen then
      let t := { t with state := .terminated, completedAt := some s.now }
      notify e.bus (.task (.terminated t))
      closeTasks e (s.update t) ts
    else closeTasks e s ts

/-- How an instance is ended from outside. -/
inductive Ending where
  | timeout
  | termination
deriving DecidableEq, Repr

namespace Ending

def state : Ending → InstanceState
  | timeout => .timeout
  | termination => .termination

def event : Ending → Uuid → String → Instant → InstanceEvent
  | timeout => .timedOut
  | termination => .terminated

end Ending

/-- Ends an active instance and closes its open tasks. -/
def close (e : Engine) (id : Uuid) (ending : Ending) (now : Instant) : Action Unit := do
  let i ← activeInstance id
  let s ← closeTasks e (.begin i now) (← tasks id)
  notify e.bus (.instanceRecord (ending.event id i.definitionId now))
  discard (commit (s.close ending.state))

def terminate (e : Engine) (id : Uuid) : Action Unit := do
  close e id .termination (← Attempt.now)

/-- Sets variables of an active instance, which stays where it is. -/
def updateVariables (id : Uuid) (vars : Variables) : Action Unit := do
  let i ← activeInstance id
  let now ← Attempt.now
  let i := { i with vars := i.vars.union vars, updatedAt := now }
  discard (accepted (← ask (.saveInstance i)))

/-- The tokens that got stuck leave the nodes where they waited. -/
def pickUp (i : Instance) (f : Failure) (now : Instant) : Step :=
  f.nodes.foldl Step.depart (.begin { i with failure := none } now)

/-- The tokens that got stuck try again. -/
def retryOpening (e : Engine) (id : Uuid) : Action Opening := do
  let i ← activeInstance id
  match i.failure with
  | none => throw (.state (.nothingToRetry id))
  | some f => do
    let d ← definition e i.definitionId
    let now ← Attempt.now
    return .walks d (f.nodes.map .leave) (pickUp i f now)

def retry (e : Engine) (id : Uuid) : Action Unit := discard (carryOut e (retryOpening e id))

end Workflow.Engine
