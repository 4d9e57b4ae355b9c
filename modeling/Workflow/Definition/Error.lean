import Workflow.Files.Error
import Workflow.Guard.Evaluator
import Workflow.Reminder.Error

/-!
Why a definition is refused.
-/
namespace Workflow

inductive DefinitionError.Kind where
  | parse | io | validation | unknownNode | unreachableEnd | expression
deriving DecidableEq, Repr

inductive DefinitionError where
  /-- The text is no document, or not one of a definition. -/
  | unreadable
  | file (cause : FileError)
  | blankId
  | noNodes (definition : String)
  | duplicateNode (node : String)
  | noStart (definition : String)
  | manyStarts (definition : String) (count : Nat)
  | startTransitions (node : String)
  | startTargeted (node : String)
  | noStop (definition : String)
  | stopTransitions (node : String)
  | deadEnd (kind node : String)
  | joinExpectsNone (node : String)
  | unknownTarget (node target : String)
  | emptyCondition (node target : String)
  | zeroTimeout
  | unreachableStop (start definition : String)
  | badGuard (node : String) (fault : Guard.Fault)
  /-- On a node, or else on the definition. -/
  | badReminder (node : Option String) (cause : ReminderError)
  /-- In the words of whoever found the fault. -/
  | reported (kind : DefinitionError.Kind) (detail : String)
deriving DecidableEq, Repr

namespace DefinitionError

def Kind.label : Kind → String
  | parse => "parse error"
  | io => "I/O error"
  | validation => "validation error"
  | unknownNode => "unknown node"
  | unreachableEnd => "unreachable end"
  | expression => "expression error"

def kind : DefinitionError → Kind
  | unreadable => .parse
  | file _ => .io
  | unknownTarget _ _ => .unknownNode
  | unreachableStop _ _ => .unreachableEnd
  | badGuard _ _ => .expression
  | reported kind _ => kind
  | _ => .validation

def detail : DefinitionError → String
  | unreadable => "not a process definition"
  | file cause => cause.message
  | blankId => "definition id must not be empty"
  | noNodes d => s!"definition '{d}' has no nodes"
  | duplicateNode n => s!"duplicate node id: '{n}'"
  | noStart d => s!"definition '{d}' has no start node"
  | manyStarts d count => s!"definition '{d}' has {count} start nodes, expected exactly one"
  | startTransitions n => s!"start node '{n}' must have exactly one unguarded transition"
  | startTargeted n => s!"start node '{n}' must not be a transition target"
  | noStop d => s!"definition '{d}' has no end node"
  | stopTransitions n => s!"end node '{n}' must not have outgoing transitions"
  | deadEnd kind n => s!"{kind} node '{n}' has no outgoing transitions"
  | joinExpectsNone n => s!"join node '{n}' must expect at least one arrival"
  | unknownTarget n target => s!"node '{n}' transitions to unknown node '{target}'"
  | emptyCondition n target => s!"transition '{n}' -> '{target}' has an empty condition group"
  | zeroTimeout => "timeout must be > 0"
  | unreachableStop start d => s!"no end node is reachable from start node '{start}' in '{d}'"
  | badGuard n fault => s!"node '{n}': configuration error: {fault.message}"
  | badReminder none cause => s!"definition reminder: {cause.message}"
  | badReminder (some n) cause => s!"node '{n}' reminder: {cause.message}"
  | reported _ detail => detail

def message (e : DefinitionError) : String := e.kind.label ++ ": " ++ e.detail

end DefinitionError

end Workflow
