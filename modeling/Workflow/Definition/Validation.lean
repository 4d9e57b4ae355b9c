import Workflow.Definition.Error
import Workflow.Definition.Graph
import Workflow.Reminder.Rule

/-!
What a definition has to satisfy before it is used. The checks come in a fixed order, and the first
that fails is reported.
-/
namespace Workflow.Definition

/-- A check that fails with an error when a condition holds. -/
def refuseIf (bad : Bool) (e : DefinitionError) : Except DefinitionError Unit :=
  if bad then .error e else .ok ()

/-- The first id that an earlier node has already. -/
def firstDuplicate? (seen : List String) : List Node → Option String
  | [] => none
  | n :: ns => if seen.contains n.id then some n.id else firstDuplicate? (n.id :: seen) ns

def checkUnique (d : Definition) : Except DefinitionError Unit :=
  match firstDuplicate? [] d.nodes with
  | some id => .error (.duplicateNode id)
  | none => .ok ()

/-- The one start node. -/
def soleStart (d : Definition) : Except DefinitionError Node :=
  match d.nodes.filter fun n => n.kind.isStart with
  | [start] => .ok start
  | [] => .error (.noStart d.id)
  | many => .error (.manyStarts d.id many.length)

def checkStart (d : Definition) (start : Node) : Except DefinitionError Unit := do
  match start.transitions with
  | [⟨_, none⟩] => pure ()
  | _ => .error (.startTransitions start.id)
  refuseIf (0 < d.incomingCount start.id) (.startTargeted start.id)

/-- Whether transitions leave the node as its kind wants it, and what a join expects. -/
def checkKind (n : Node) : Except DefinitionError Unit :=
  match n.kind with
  | .stop => refuseIf (!n.transitions.isEmpty) (.stopTransitions n.id)
  | .join expected => do
    refuseIf n.transitions.isEmpty (.deadEnd n.kind.name n.id)
    refuseIf (expected == some 0) (.joinExpectsNone n.id)
  | _ => refuseIf n.transitions.isEmpty (.deadEnd n.kind.name n.id)

def checkTransition (d : Definition) (n : Node) (t : Transition) : Except DefinitionError Unit := do
  refuseIf (!d.hasNode t.target) (.unknownTarget n.id t.target)
  match t.condition with
  | none => pure ()
  | some c => refuseIf (c.isEmpty || c.groups.any List.isEmpty) (.emptyCondition n.id t.target)

def checkTransitions (d : Definition) (n : Node) : List Transition → Except DefinitionError Unit
  | [] => .ok ()
  | t :: ts => do
    checkTransition d n t
    checkTransitions d n ts

def checkNodes (d : Definition) : List Node → Except DefinitionError Unit
  | [] => .ok ()
  | n :: ns => do
    checkKind n
    checkTransitions d n n.transitions
    checkNodes d ns

/-- Whether some end node can be reached from an id. -/
def reachesStop (d : Definition) (id : String) : Bool :=
  let reachable := d.reachableFrom id
  d.nodes.any fun n => n.kind.isStop && reachable.contains n.id

def validate (d : Definition) : Except DefinitionError Unit := do
  refuseIf (Text.isBlankText d.id) .blankId
  refuseIf d.nodes.isEmpty (.noNodes d.id)
  checkUnique d
  let start ← soleStart d
  checkStart d start
  refuseIf (!d.nodes.any fun n => n.kind.isStop) (.noStop d.id)
  checkNodes d d.nodes
  refuseIf (d.timeoutSeconds == some 0) .zeroTimeout
  refuseIf (!d.reachesStop start.id) (.unreachableStop start.id d.id)

/-- Every guard expression has to pass the evaluator's check. -/
def checkGuards (ev : Guard.Evaluator) : List (Node × String) → Except DefinitionError Unit
  | [] => .ok ()
  | (n, expression) :: rest =>
    match ev.check expression with
    | .ok () => checkGuards ev rest
    | .error fault => .error (.badGuard n.id fault)

def validateGuards (d : Definition) (ev : Guard.Evaluator) : Except DefinitionError Unit :=
  checkGuards ev d.guards

def checkReminder (node : Option String) : Option ReminderParam → Except DefinitionError Unit
  | none => .ok ()
  | some p =>
    match Reminder.Rule.compile p with
    | .ok _ => .ok ()
    | .error e => .error (.badReminder node e)

def checkNodeReminders : List Node → Except DefinitionError Unit
  | [] => .ok ()
  | n :: ns => do
    checkReminder (some n.id) n.reminder
    checkNodeReminders ns

/-- Every reminder, that of the definition first, has to compile. -/
def validateReminders (d : Definition) : Except DefinitionError Unit := do
  checkReminder none d.reminder
  checkNodeReminders d.nodes

end Workflow.Definition
