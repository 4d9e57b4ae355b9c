import Workflow.Definition.Error
import Workflow.Store.Error

/-!
Why an operation on instances fails.
-/
namespace Workflow

/-- What is wrong with the setting in which a definition is used. -/
inductive ConfigurationError where
  | definition (cause : DefinitionError)
  | guard (fault : Guard.Fault)
  | reminder (cause : ReminderError)
  | noStart (definition : String)
  | unknownNode (definition node : String)
  | unknownFlowHandler (id : String)
  /-- The node asks for a flow handler that nobody registered. -/
  | missingFlowHandler (node id : String)
  | unknownTaskHandler (id : String)
  | reported (message : String)
deriving DecidableEq, Repr

def ConfigurationError.message : ConfigurationError → String
  | definition cause => cause.message
  | guard fault => fault.message
  | reminder cause => cause.message
  | noStart d => s!"definition '{d}' has no start node"
  | unknownNode d node => s!"definition '{d}' has no node '{node}'"
  | unknownFlowHandler id => s!"unknown flow handler '{id}'"
  | missingFlowHandler node id => s!"node '{node}' references unknown flow handler '{id}'"
  | unknownTaskHandler id => s!"unknown task handler '{id}'"
  | reported m => m

/-- What stands in the way of a change to an instance. -/
inductive StateError where
  | taskClosed (task : Uuid) (state : String)
  | instanceClosed (instanceId : Uuid) (state : String)
  | nothingToRetry (instanceId : Uuid)
  | reported (message : String)
deriving DecidableEq, Repr

def StateError.message : StateError → String
  | taskClosed task state => s!"task {task} is already {state}"
  | instanceClosed i state => s!"instance {i} is already {state}"
  | nothingToRetry i => s!"instance {i} has no routing failure to retry"
  | reported m => m

inductive ExecutionError where
  | tooManyVisits (instanceId : Uuid) (limit : UInt32)
  | reported (message : String)
deriving DecidableEq, Repr

def ExecutionError.message : ExecutionError → String
  | tooManyVisits i limit => s!"instance {i} exceeded {limit.toNat} node visits in one step"
  | reported m => m

/-- What was looked for in vain. -/
inductive Missing where
  | definition (id : String)
  | instanceRecord (id : Uuid)
  | task (id : Uuid)
  | reported (what : String)
deriving DecidableEq, Repr

def Missing.message : Missing → String
  | definition id => s!"process definition '{id}'"
  | instanceRecord id => s!"process instance {id}"
  | task id => s!"task {id}"
  | reported what => what

inductive EngineError where
  | configuration (cause : ConfigurationError)
  /-- A token found no way out of a node; the instance waits there. -/
  | routing (instanceId : Uuid) (node : String)
  | state (cause : StateError)
  | handler (node message : String)
  | listener (message : String)
  | execution (cause : ExecutionError)
  | notFound (what : Missing)
  | store (cause : StoreError)
deriving DecidableEq, Repr

namespace EngineError

def message : EngineError → String
  | configuration cause => s!"configuration error: {cause.message}"
  | routing i node => s!"routing error: instance {i} has no route out of node '{node}'"
  | state cause => s!"state error: {cause.message}"
  | handler node m => s!"handler failed at node '{node}': {m}"
  | listener m => s!"listener failed: {m}"
  | execution cause => s!"execution error: {cause.message}"
  | notFound what => s!"not found: {what.message}"
  | store cause => s!"repository error: {cause.message}"

/-- Whether the same call may succeed later under the same definition. -/
def isRetryable : EngineError → Bool
  | routing _ _ => true
  | store cause => cause.kind == .conflict
  | _ => false

end EngineError

end Workflow
