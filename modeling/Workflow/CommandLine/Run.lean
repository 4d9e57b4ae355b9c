import Workflow.CommandLine.Arguments
import Workflow.CommandLine.Outcome
import Workflow.Engine.Operations
import Workflow.Files.Definitions
import Workflow.Json.Parser
import Workflow.Text.Grid

/-!
The command that starts one instance of a definition and completes tasks of it, one after another.
-/
namespace Workflow.CommandLine

open Engine (Action Attempt Ambient)

inductive RunError where
  | noDefinition (file : String)
  | badVariables
  | blankNode (completion : String)
  | badOutput (node : String)
  | noOpenTask (node : String)
  | engine (cause : EngineError)
deriving DecidableEq, Repr

def RunError.message : RunError → String
  | noDefinition file => s!"Failed to load definition {file}"
  | badVariables => "Invalid --vars"
  | blankNode completion => s!"Invalid --complete '{completion}': expected NODE=JSON"
  | badOutput node => s!"Invalid --complete output for '{node}'"
  | noOpenTask node => s!"No open task on node '{node}'"
  | engine cause => cause.message

/-! ### What is asked for -/

/-- A task to complete: the node that it is open on, and what to hand in. -/
structure Completion where
  node : String
  output : Variables
deriving DecidableEq, Repr

structure Scenario where
  definition : Definition
  vars : Variables
  completions : List Completion
deriving DecidableEq, Repr

/-- Variables as a JSON object. -/
def readVariables? (s : String) : Option Variables :=
  (Json.parse? s).bind fun v => Variables.ofDocument? (.ofValue v)

/-- A node and what to hand in behind an equals sign. Nothing behind it hands in nothing. -/
def Completion.read (s : String) : Except RunError Completion :=
  let (node, output) := (Text.splitOnce? s "=").getD (s, "")
  if Text.isBlankText node then .error (.blankNode s)
  else if Text.isBlankText output then .ok ⟨Text.trim node, ∅⟩
  else match readVariables? output with
    | some output => .ok ⟨Text.trim node, output⟩
    | none => .error (.badOutput node)

def RunRequest.read (r : RunRequest) (files : Files.Tree) : Except RunError Scenario := do
  let definition ← (files.loadDefinition r.file).mapError fun _ => .noDefinition r.file
  let vars ← match r.vars with
    | none => pure ∅
    | some s => match readVariables? s with
      | some vars => pure vars
      | none => throw .badVariables
  return ⟨definition, vars, ← r.completions.mapM Completion.read⟩

/-! ### The run -/

/-- Steps of a run. -/
abbrev Drive := ExceptT RunError (StateT Ambient Script)

namespace Drive

def ofAction (x : Action α) : Drive α := fun a => do
  let (r, a) ← x a
  return (r.mapError .engine, a)

instance : MonadLift Action Drive := ⟨ofAction⟩

/-- Goes on behind a step whose token got stuck, for it is written all the same. -/
def orParked (x : Action α) (parked : Uuid → α) : Drive α := do
  match ← x.outcome with
  | .ok r => return r
  | .error (.routing i node) =>
    Attempt.remark (.parked i node)
    return parked i
  | .error e => throw (.engine e)

/-- Completes an open task on the node of each completion. -/
def complete (e : Engine) (id : Uuid) : List Completion → Drive Unit
  | [] => return
  | c :: cs => do
    let tasks ← Engine.openTasks id
    match tasks.find? fun t => t.node == c.node with
    | none => throw (.noOpenTask c.node)
    | some t =>
      orParked (e.complete t.id c.output) fun _ => ()
      complete e id cs

end Drive

/-- Where a run has led to. -/
structure RunResult where
  record : Instance
  tasks : List Task
deriving DecidableEq, Repr

def Scenario.drive (s : Scenario) (e : Engine) : Drive RunResult := do
  Attempt.trace (.recorded .definitionId s.definition.id)
  e.deploy s.definition
  let id ← Drive.orParked (e.start s.definition.id s.vars) id
  Attempt.trace (.recorded .instanceId id.text)
  Drive.complete e id s.completions
  let record ← Engine.findInstance id
  let tasks ← Engine.tasks id
  Attempt.trace (.recorded .instanceState record.state.text)
  return ⟨record, tasks⟩

/-! ### Events -/

def instanceEventLine : InstanceEvent → String
  | .started _ definition => s!"instance started ({definition})"
  | .completed _ _ _ => "instance completed"
  | .timedOut _ _ _ => "instance timed out"
  | .terminated _ _ _ => "instance terminated"
  | .routingFailed _ _ node => s!"routing failed at {node}"

def taskEventLine : TaskEvent → String
  | .created t => s!"task created at {t.node}"
  | .completed t => s!"task completed at {t.node}"
  | .terminated t => s!"task terminated at {t.node}"

def eventLine : Event → Option String
  | .instanceRecord e => some (instanceEventLine e)
  | .task e => some (taskEventLine e)
  | .reminder _ => none

/-- Hears of instances and tasks, and takes everything as it is. -/
def witness : Listener := ⟨fun k => k != .reminder, fun _ _ => .ok ()⟩

/-! ### As text -/

def taskRow (t : Task) : List String :=
  [t.id.text, t.node, ", ".intercalate t.assignees, t.state.text]

def taskGrid (tasks : List Task) : Text.Grid :=
  ⟨["Task", "Node", "Assignees", "State"], tasks.map taskRow⟩

def stateText (i : Instance) : String :=
  if i.isFlagged then i.state.text ++ " (flagged)" else i.state.text

def instanceLines (i : Instance) : List String :=
  ["", s!"  * Instance {i.id} of '{i.definitionId}'", "  State: " ++ stateText i] ++
    (if i.currentNodes.isEmpty then []
      else ["  Waiting at: " ++ ", ".intercalate i.currentNodes.toList]) ++
    (i.failure.map fun f => s!"  Failure: {f.message}").toList ++
    (if i.vars.isEmpty then []
      else ["  Variables: " ++ Json.compact (.ofVariables i.vars)])

def taskLines : List Task → List String
  | [] => []
  | tasks => "" :: (taskGrid tasks).lines

def eventLines : List String → List String
  | [] => []
  | events => ["", "  Events:"] ++ events.map ("    " ++ ·)

def RunResult.lines (r : RunResult) (events : List String) : List String :=
  instanceLines r.record ++ taskLines r.tasks ++ eventLines events ++ [""]

def RunResult.toValue (r : RunResult) (events : List String) : Value :=
  .object [("instance", r.record.toValue), ("tasks", .array (r.tasks.map Task.toValue)),
    ("events", .array (events.map .string))]

/-! ### The command -/

/-- Runs a scenario with an engine of its own, which starts out with nothing. -/
def Scenario.run (s : Scenario) (config : Config) (supply : Supply) (json : Bool) : Outcome :=
  let e : Engine := ⟨.standard, .standard, .add ∅ witness, config⟩
  let ((result, a), _) := Script.run .empty (s.drive e (.ofSupply supply))
  let events := (a.deliveries.reverse.map Delivery.event).filterMap eventLine
  let outcome : Outcome := match result with
    | .error e => .failed e.message
    | .ok r => .done (if json then jsonText (r.toValue events) else textOf (r.lines events))
  { outcome with trace := [.opened .run []] ++ a.trace.reverse ++ [.closed] }

def run (config : Config) (files : Files.Tree) (supply : Supply) (json : Bool) (r : RunRequest) :
    Outcome :=
  match r.read files with
  | .error e => .failed e.message
  | .ok s => s.run config supply json

end Workflow.CommandLine
