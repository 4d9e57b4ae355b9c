import Workflow.Engine.Script

/-!
Scripts that can fail and that keep an engine's notes. What was noted stays noted after a failure.
-/
namespace Workflow.Engine

abbrev Action := ExceptT EngineError (StateT Ambient Script)

namespace Action

/-- Work that makes no calls. -/
def ofAttempt (x : Attempt α) : Action α := fun a => .done (x a)

instance : MonadLift Attempt Action := ⟨ofAttempt⟩

def ask (c : Call) : Action c.Answer := fun a => .call c fun r => .done (.ok r, a)

/-- The answer of the store, whose refusal is an error. -/
def accepted (x : Except StoreError α) : Action α :=
  match x with
  | .ok r => return r
  | .error e => throw (.store e)

/-- The outcome of an action, failures among them. -/
def outcome (x : Action α) : Action (Except EngineError α) := fun a => do
  let (r, a) ← x a
  return (.ok r, a)

/-- Goes on from an outcome. -/
def resume : Except EngineError α → Action α
  | .ok r => return r
  | .error e => throw e

/-- Notes what an action does as a span. -/
def within (span : SpanKind) (attributes : List (Attribute × String)) (x : Action α) : Action α := do
  Attempt.trace (.opened span attributes)
  let r ← outcome x
  Attempt.trace .closed
  resume r

/-- The outcome, the notes and the world after an action. -/
def run (w : World) (a : Ambient) (x : Action α) : (Except EngineError α × Ambient) × World :=
  Script.run w (x a)

end Action

end Workflow.Engine
