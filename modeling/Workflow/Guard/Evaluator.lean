import Workflow.Guard.Condition
import Workflow.Guard.Eval

/-!
Deciding conditions among the variables of an instance. `Evaluator.standard` reads the expressions
in the language of `Workflow.Guard.Expr`; others may be put in its place.
-/
namespace Workflow.Guard

/-- Why a condition could not be decided, or is refused beforehand. -/
inductive Fault where
  | failed (expression : String) (cause : EvalError)
  | blank
  | unparsable (expression : String)
  /-- In the words of the evaluator. -/
  | reported (message : String)
deriving DecidableEq, Repr

def Fault.message : Fault → String
  | failed expression cause => s!"failed to evaluate expression '{expression}': {cause.message}"
  | blank => "guard expression must not be empty"
  | unparsable expression =>
    s!"invalid expression '{expression}': {EvalError.unparsable.message}"
  | reported message => message

structure Evaluator where
  context : Variables → Value
  atom : Value → String → Except Fault Bool
  /-- Looks at an expression before any variables are known. -/
  check : String → Except Fault Unit

/-- The context of variables, in which whole numbers are doubles. -/
def contextOf (vars : Variables) : Value := (Value.ofVariables vars).widened

def evalAtom (ctx : Value) (expression : String) : Except Fault Bool :=
  match evalText expression ctx with
  | .ok v => .ok v.isTruthy
  | .error e => .error (.failed expression e)

def checkAtom (expression : String) : Except Fault Unit :=
  if Text.isBlankText expression then .error .blank
  else match Expr.parse? expression with
    | some _ => .ok ()
    | none => .error (.unparsable expression)

namespace Evaluator

def standard : Evaluator := ⟨contextOf, evalAtom, checkAtom⟩

/-- The answer to a condition, and the expressions asked for it. -/
def evaluate (ev : Evaluator) (c : Condition) (vars : Variables) :
    Except Fault Bool × List String :=
  c.ask (ev.atom (ev.context vars))

end Evaluator

end Workflow.Guard
