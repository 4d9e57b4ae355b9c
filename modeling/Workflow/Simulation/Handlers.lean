import Workflow.Guard.Evaluator
import Workflow.Handler

/-!
Handlers and evaluators that are written down as values.
-/
namespace Workflow.Simulation

inductive FlowAction where
  | set (fields : List (String × Value))
  /-- Adds one to a whole number; what is none counts as zero. -/
  | increment (name : String)
  | remove (name : String)
  | require (name : String)
  /-- Adds where the token is, and for whom, to a list. -/
  | mark (name : String)
  | fail (message : String)
  | skip
deriving Repr

namespace FlowAction

def ofValue : Value → FlowAction
  | .object [("set", .object fields)] => set fields
  | .object [("incr", .string k)] => increment k
  | .object [("remove", .string k)] => remove k
  | .object [("require", .string k)] => require k
  | .object [("trace", .string k)] => mark k
  | .object [("fail", .string m)] => fail m
  | _ => skip

def successor : Option Value → Value
  | some (.number (.int n)) => .number (.int ((if n ≤ Int64.maxValue.toInt then n else 0) + 1))
  | _ => .number (.int 1)

def place (x : Execution) : String :=
  x.definition.id ++ "/" ++ x.node.id ++ "/" ++ ",".intercalate x.node.assignees

def apply (x : Execution) (vars : Variables) : FlowAction → Except String Variables
  | set fields => .ok (vars.insertAll fields)
  | increment k => .ok (vars.insert k (successor (vars.get? k)))
  | remove k => .ok (vars.erase k)
  | require k => if vars.contains k then .ok vars else .error s!"missing variable '{k}'"
  | mark k =>
    match vars.get? k with
    | none => .ok (vars.insert k (.array [.string (place x)]))
    | some (.array l) => .ok (vars.insert k (.array (l ++ [.string (place x)])))
    | some _ => .ok vars
  | fail m => .error m
  | skip => .ok vars

/-- Takes one action after another, up to the first that fails. -/
def handler (actions : List FlowAction) : FlowHandler := fun _ x =>
  actions.foldlM (apply x) x.vars

end FlowAction

inductive TaskPlan where
  | single
  | perAssignee
  | count (n : Nat)
  | fail (message : String)
  /-- A task as it should be, and one for another node. -/
  | otherNode (id : String)
  | otherInstance (id : Uuid)
  /-- A task for each text in a list. -/
  | assigneesFrom (name : String)
deriving Repr

namespace TaskPlan

def ofValue : Value → TaskPlan
  | .object [("count", .number (.int n))] => count n.toNat
  | .object [("fail", .string m)] => fail m
  | .object [("foreign_node", .string id)] => otherNode id
  | .object [("foreign_instance", .string u)] => otherInstance ((Uuid.parse? u).getD ⟨0⟩)
  | .object [("assignees_from", .string k)] => assigneesFrom k
  | .object [("builtin", .string "per_assignee")] => perAssignee
  | _ => single

/-- Tasks for instances, nodes and assignees, with fresh ids. -/
def tasksAt (now : Time.Instant) : List (Uuid × String × List String) → Supply → List Task × Supply
  | [], s => ([], s)
  | (i, node, assignees) :: rest, s =>
    let (id, s) := s.fresh
    let (tasks, s) := tasksAt now rest s
    (.create id i node assignees now :: tasks, s)

def texts : Option Value → List String
  | some (.array l) => l.filterMap fun v => match v with
    | .string s => some s
    | _ => none
  | _ => []

def handler (plan : TaskPlan) : TaskHandler := fun earlier x s =>
  let made (places : List (Uuid × String × List String)) : Except String (List Task) × Supply :=
    let (tasks, s) := tasksAt x.now places s
    (.ok tasks, s)
  match plan with
  | single => TaskHandler.single earlier x s
  | perAssignee => TaskHandler.perAssignee earlier x s
  | count n => made (List.replicate n (x.instanceId, x.node.id, x.node.assignees))
  | fail m => (.error m, s)
  | otherNode id => made [(x.instanceId, x.node.id, []), (x.instanceId, id, [])]
  | otherInstance i => made [(i, x.node.id, [])]
  | assigneesFrom k =>
    made ((texts (x.vars.get? k)).map fun a => (x.instanceId, x.node.id, [a]))

end TaskPlan

/-- An evaluator that looks expressions up in a table of answers. -/
def tableEvaluator (table : List (String × Bool)) : Guard.Evaluator :=
  let fault (e : String) : Guard.Fault := .reported s!"no atom '{e}'"
  { context := fun _ => .null
    atom := fun _ e => (table.lookup e).elim (.error (fault e)) .ok
    check := fun e => (table.lookup e).elim (.error (fault e)) fun _ => .ok () }

end Workflow.Simulation
