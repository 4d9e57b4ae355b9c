import Workflow.CommandLine.Spans
import Workflow.Simulation.Numbers

/-!
Spans as values, with numbers in the place of ids.
-/
namespace Workflow.Simulation

def fieldValue (f : String × String) : StateM Numbers (String × Value) := do
  return (f.1, .string (← numbered f.2))

/-- Texts by their names; of two with one name the later counts. -/
def fieldsValue (fields : List (String × String)) : StateM Numbers Value := do
  return .ofFields (← fields.mapM fieldValue)

def remarkValue (r : Remark) : StateM Numbers Value := do
  return .object [("name", .string r.message), ("level", .string r.level.text),
    ("fields", ← fieldsValue r.fields)]

def spanValue (s : CommandLine.SpanRecord) : StateM Numbers Value := do
  let told ← fieldsValue (s.told.map fun t => (t.1.name, t.2))
  let parent : Value := match s.parent with
    | some n => .number (.int n)
    | none => .null
  return .object [("name", .string s.kind.name), ("parent", parent), ("fields", told),
    ("events", .array (← s.remarks.mapM remarkValue))]

def spanValues (spans : List CommandLine.SpanRecord) : Value :=
  .array ((spans.mapM spanValue).run []).1

end Workflow.Simulation
