import Workflow.Listener

/-!
Listeners that are written down: what they hear, and which events they fail at.
-/
namespace Workflow.Simulation

/-- Events to fail at; whatever is left out suits every event. -/
structure Refusal where
  type : Option String
  node : Option String
  /-- At most how often. -/
  times : Option Int
  message : String
deriving DecidableEq, Repr

namespace Refusal

def suits (r : Refusal) (e : Event) : Bool :=
  r.type.all (· == e.type) && r.node.all fun n => some n == e.node?

/-- Whether it has come about as often as it may. -/
def isExhausted (r : Refusal) (heard : List Event) : Bool :=
  r.times.any fun n => n ≤ ((heard.filter r.suits).length : Int)

end Refusal

structure ListenerPlan where
  name : String
  kinds : List EventKind
  refusal : Option Refusal
deriving DecidableEq, Repr

def ListenerPlan.listener (p : ListenerPlan) : Listener where
  hears := p.kinds.contains
  respond := fun heard e =>
    match p.refusal with
    | some r => if r.suits e && !r.isExhausted heard then .error r.message else .ok ()
    | none => .ok ()

end Workflow.Simulation
