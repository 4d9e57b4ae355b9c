import Workflow.Definition.Codec
import Workflow.Instance.Basic

/-!
Instances and tasks as documents. What is absent is left out, and so are an empty output and an
empty count of arrivals; the other lists and maps are always written.
-/
namespace Workflow

open Time (Instant)

def Uuid.toValue (u : Uuid) : Value := .string u.text

def Uuid.ofDocument? (d : Document) : Option Uuid := d.text?.bind Uuid.parse?

def Time.Instant.toValue (t : Instant) : Value := .string t.text

def Time.Instant.ofDocument? (d : Document) : Option Instant :=
  d.text?.bind fun s => (Instant.parseRelaxed s).toOption

namespace Variables

def toValue (vars : Variables) : Value := .ofVariables vars

def ofDocument? (d : Document) : Option Variables := d.dict? Document.value?

end Variables

/-- A field that is left out when the map is empty. -/
def dictField (name : String) (write : α → Value) (d : Dict String α) : List (String × Value) :=
  if d.isEmpty then [] else [(name, .object (d.mapValues write).entries)]

namespace InstanceState

def toValue (s : InstanceState) : Value := .string s.text

def ofDocument? (d : Document) : Option InstanceState := d.choice?.bind ofName?

end InstanceState

namespace TaskState

def toValue (s : TaskState) : Value := .string s.text

def ofDocument? (d : Document) : Option TaskState := d.choice?.bind ofName?

end TaskState

namespace Failure

def members : List (List String) := [["node_ids"], ["message"], ["at"]]

def toValue (f : Failure) : Value :=
  .object [("node_ids", .array (f.nodes.map .string)), ("message", .string f.message),
    ("at", f.time.toValue)]

def ofDocument? (d : Document) : Option Failure :=
  match d.members? members with
  | some [nodes, message, time] => do
    let nodes ← Record.required (Document.list? Document.text?) nodes
    let message ← Record.required Document.text? message
    let time ← Record.required Instant.ofDocument? time
    some ⟨nodes, message, time⟩
  | _ => none

end Failure

namespace Instance

def members : List (List String) :=
  [["id"], ["definition_id"], ["definition_version"], ["current_nodes"], ["variables"], ["state"],
    ["join_arrivals"], ["failure"], ["remind"], ["deadline"], ["created_at"], ["updated_at"],
    ["revision"]]

def toValue (i : Instance) : Value :=
  .object ([("id", i.id.toValue), ("definition_id", .string i.definitionId),
      ("definition_version", wholeNumber i.definitionVersion.toNat),
      ("current_nodes", .array (i.currentNodes.toList.map .string)),
      ("variables", Variables.toValue i.vars), ("state", i.state.toValue)] ++
    dictField "join_arrivals" (fun n => wholeNumber n.toNat) i.joinArrivals ++
    optionalField "failure" Failure.toValue i.failure ++
    optionalField "remind" ReminderParam.toValue i.reminder ++
    optionalField "deadline" Instant.toValue i.deadline ++
    [("created_at", i.createdAt.toValue), ("updated_at", i.updatedAt.toValue),
      ("revision", wholeNumber i.revision.toNat)])

def ofDocument? (d : Document) : Option Instance :=
  match d.members? members with
  | some [id, definitionId, version, nodes, vars, state, arrivals, failure, reminder, deadline,
      created, updated, revision] => do
    let id ← Record.required Uuid.ofDocument? id
    let definitionId ← Record.required Document.text? definitionId
    let version ← Record.required Document.word32? version
    let nodes ← Record.defaulting [] (Document.list? Document.text?) nodes
    let vars ← Record.defaulting ∅ Variables.ofDocument? vars
    let state ← Record.required InstanceState.ofDocument? state
    let arrivals ← Record.defaulting ∅ (Document.dict? Document.word32?) arrivals
    let failure ← Document.optional Failure.ofDocument? failure
    let reminder ← Document.optional ReminderParam.ofDocument? reminder
    let deadline ← Document.optional Instant.ofDocument? deadline
    let created ← Record.required Instant.ofDocument? created
    let updated ← Record.required Instant.ofDocument? updated
    let revision ← Record.defaulting 0 Document.word64? revision
    some ⟨id, definitionId, version, .ofList nodes, vars, state, arrivals, failure, reminder,
      deadline, created, updated, revision⟩
  | _ => none

def ofValue? (v : Value) : Option Instance := ofDocument? (.ofValue v)

end Instance

namespace Task

def members : List (List String) :=
  [["id"], ["instance_id"], ["node_id"], ["assignees"], ["state"], ["output"], ["created_at"],
    ["completed_at"]]

def toValue (t : Task) : Value :=
  .object ([("id", t.id.toValue), ("instance_id", t.instanceId.toValue), ("node_id", .string t.node),
      ("assignees", .array (t.assignees.map .string)), ("state", t.state.toValue)] ++
    (if t.output.isEmpty then [] else [("output", Variables.toValue t.output)]) ++
    [("created_at", t.createdAt.toValue)] ++ optionalField "completed_at" Instant.toValue t.completedAt)

def ofDocument? (d : Document) : Option Task :=
  match d.members? members with
  | some [id, instanceId, node, assignees, state, output, created, completed] => do
    let id ← Record.required Uuid.ofDocument? id
    let instanceId ← Record.required Uuid.ofDocument? instanceId
    let node ← Record.required Document.text? node
    let assignees ← Record.defaulting [] (Document.list? Document.text?) assignees
    let state ← Record.required TaskState.ofDocument? state
    let output ← Record.defaulting ∅ Variables.ofDocument? output
    let created ← Record.required Instant.ofDocument? created
    let completed ← Document.optional Instant.ofDocument? completed
    some ⟨id, instanceId, node, assignees, state, output, created, completed⟩
  | _ => none

def ofValue? (v : Value) : Option Task := ofDocument? (.ofValue v)

end Task

end Workflow
