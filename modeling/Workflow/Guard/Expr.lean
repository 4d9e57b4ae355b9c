import Workflow.Data.Value

/-!
The expressions that guards are written in.
-/
namespace Workflow.Guard

/-- The operators that take both sides' values. -/
inductive Operator where
  | add | subtract | multiply | divide | floorDivide | modulus | power
  | less | lessEqual | greater | greaterEqual | equal | notEqual | isIn
deriving DecidableEq, Repr

namespace Operator

/-- The name that error messages use. -/
def name : Operator → String
  | add => "Add"
  | subtract => "Subtract"
  | multiply => "Multiply"
  | divide => "Divide"
  | floorDivide => "Floor division"
  | modulus => "Modulus"
  | power => "Exponent"
  | less => "Less than"
  | lessEqual => "Less than or equal to"
  | greater => "Greater than"
  | greaterEqual => "Greater than or equal to"
  | equal => "Equal"
  | notEqual => "Not equal"
  | isIn => "In"

def isComparison : Operator → Bool
  | less | lessEqual | greater | greaterEqual | equal | notEqual | isIn => true
  | _ => false

end Operator

/-- The operators that look at the right side only when the left one leaves it open. -/
inductive Connective where
  | both
  | either
deriving DecidableEq, Repr

inductive Expr where
  | null
  | bool (b : Bool)
  | number (x : Float)
  | string (s : String)
  | ident (name : String)
  | list (items : List Expr)
  | record (fields : List (String × Expr))
  | connect (c : Connective) (left right : Expr)
  | operate (op : Operator) (left right : Expr)
  | choose (condition yes no : Expr)
  | transform (subject : Expr) (name : String) (args : List Expr)
  | index (subject key : Expr)
  | member (subject : Expr) (name : String)
  /-- The elements of a list whose member stands in a relation to a value. -/
  | filter (subject : Expr) (name : String) (op : Operator) (right : Expr)
deriving Repr

end Workflow.Guard
