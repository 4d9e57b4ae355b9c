import Workflow.Definition.Basic

/-!
Definitions as documents. Writing leaves out what is absent or empty and always gives the version;
reading also takes the short forms: a condition as one text or with single texts for groups, `when`
for `condition`, and records as plain lists of their members. Nodes are always records, since the
members of their kind stand among their own.
-/
namespace Workflow

/-- A field that is left out when there is nothing to write. -/
def optionalField (name : String) (write : α → Value) : Option α → List (String × Value)
  | none => []
  | some a => [(name, write a)]

def listField (name : String) (write : α → Value) (l : List α) : List (String × Value) :=
  if l.isEmpty then [] else [(name, .array (l.map write))]

def wholeNumber (n : Nat) : Value := .number (.int n)

namespace Condition

def toValue (c : Condition) : Value := .array (c.groups.map fun g => .array (g.map .string))

/-- The text of a leaf that is a text of its own accord. -/
def ownText? : Document → Option String
  | .leaf { value := some (.text s), .. } => some s
  | _ => none

def group? : Document → Option (List String)
  | .list _ items => items.mapM ownText?
  | d => (ownText? d).map fun s => [s]

def ofSettled? : Document → Option Condition
  | .list _ items => (items.mapM group?).map Condition.mk
  | d => (ownText? d).map Condition.single

def ofDocument? (d : Document) : Option Condition := d.settled.bind ofSettled?

end Condition

namespace Transition

def members : List (List String) := [["target"], ["condition", "when"]]

def toValue (t : Transition) : Value :=
  .object ([("target", .string t.target)] ++ optionalField "condition" Condition.toValue t.condition)

def ofDocument? (d : Document) : Option Transition :=
  match d.members? members with
  | some [target, condition] => do
    let target ← Record.required Document.text? target
    let condition ← Document.optional Condition.ofDocument? condition
    some ⟨target, condition⟩
  | _ => none

end Transition

namespace NodeKind

def toFields (k : NodeKind) : List (String × Value) :=
  ("kind", .string k.name) :: match k with
    | task assignees taskHandler reminder =>
      listField "assignees" .string assignees ++ optionalField "task_handler" .string taskHandler ++
        optionalField "remind" ReminderParam.toValue reminder
    | join expected => optionalField "expected" (fun n => wholeNumber n.toNat) expected
    | _ => []

/-- The kinds by name, in their order. -/
def names : List String := ["start", "task", "condition", "join", "end"]

/-- A kind is called by its name or by its place. -/
def nameOf? : Document → Option String
  | .leaf { value := some (.text s), .. } => some s
  | .leaf { value := some (.number (.int n)), .. } => if 0 ≤ n then names[n.toNat]? else none
  | _ => none

def ofFields? (fields : List (String × Document)) : Option NodeKind := do
  let tag ← Record.member ["kind"] fields
  match ← Record.required nameOf? tag with
  | "start" => some start
  | "condition" => some condition
  | "end" => some stop
  | "join" =>
    let expected ← Record.member ["expected"] fields
    let expected ← Document.optional Document.word32? expected
    some (join expected)
  | "task" =>
    let assignees ← Record.member ["assignees"] fields
    let assignees ← Record.defaulting [] (Document.list? Document.text?) assignees
    let taskHandler ← Record.member ["task_handler"] fields
    let taskHandler ← Document.optional Document.text? taskHandler
    let reminder ← Record.member ["remind"] fields
    let reminder ← Document.optional ReminderParam.ofDocument? reminder
    some (task assignees taskHandler reminder)
  | _ => none

end NodeKind

namespace Node

def toValue (n : Node) : Value :=
  .object ([("id", .string n.id)] ++ optionalField "name" .string n.name ++ n.kind.toFields ++
    optionalField "handler" .string n.handler ++ listField "transitions" Transition.toValue n.transitions)

/-- The members that are not those of a kind. -/
def ownMembers : List String := ["id", "name", "handler", "transitions"]

def ofDocument? (d : Document) : Option Node := do
  let fields ← d.fields?
  let id ← Record.member ["id"] fields
  let id ← Record.required Document.text? id
  let name ← Record.member ["name"] fields
  let name ← Document.optional Document.text? name
  let handler ← Record.member ["handler"] fields
  let handler ← Document.optional Document.text? handler
  let transitions ← Record.member ["transitions"] fields
  let transitions ← Record.defaulting [] (Document.list? Transition.ofDocument?) transitions
  let others ← (fields.filter fun f => !ownMembers.contains f.1).mapM fun f =>
    f.2.settled.map fun d => (f.1, d)
  let kind ← NodeKind.ofFields? others
  some ⟨id, name, kind, handler, transitions⟩

end Node

namespace Definition

def members : List (List String) :=
  [["id"], ["version"], ["name"], ["description"], ["nodes"], ["remind"], ["timeout_secs"]]

def toValue (d : Definition) : Value :=
  .object ([("id", .string d.id), ("version", wholeNumber d.version.toNat)] ++
    optionalField "name" .string d.name ++ optionalField "description" .string d.description ++
    [("nodes", .array (d.nodes.map Node.toValue))] ++
    optionalField "remind" ReminderParam.toValue d.reminder ++
    optionalField "timeout_secs" (fun n => wholeNumber n.toNat) d.timeoutSeconds)

def ofDocument? (d : Document) : Option Definition :=
  match d.members? members with
  | some [id, version, name, description, nodes, reminder, timeout] => do
    let id ← Record.required Document.text? id
    let version ← Record.defaulting 1 Document.word32? version
    let name ← Document.optional Document.text? name
    let description ← Document.optional Document.text? description
    let nodes ← Record.required (Document.list? Node.ofDocument?) nodes
    let reminder ← Document.optional ReminderParam.ofDocument? reminder
    let timeout ← Document.optional Document.word64? timeout
    some ⟨id, version, name, description, nodes, reminder, timeout⟩
  | _ => none

def ofValue? (v : Value) : Option Definition := ofDocument? (.ofValue v)

end Definition

end Workflow
