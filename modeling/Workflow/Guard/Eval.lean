import Workflow.Guard.Parser
import Workflow.Guard.Transform
import Workflow.Json.Printer

/-!
The value of an expression among given variables. Numbers are doubles here; a result that is not
finite is null. The right side of a connective and the branches of a choice are evaluated only when
they are needed, and where a truth value is wanted on the left of `||` or before `?` an error counts
as false.
-/
namespace Workflow.Guard

inductive EvalError where
  | unparsable
  | undefined (name : String)
  | unknownTransform (name : String)
  | duplicateKey (key : String)
  | invalidIndex
  | invalidFilter
  | invalidOperation (op : Operator) (left right : Value)
deriving DecidableEq, Repr

def EvalError.message : EvalError → String
  | unparsable => "Parsing error: the expression does not parse"
  | undefined name => s!"Identifier '{name}' is undefined"
  | unknownTransform name => s!"Unknown transform: {name}"
  | duplicateKey key => s!"Duplicate object key: {key}"
  | invalidIndex => "Invalid index type"
  | invalidFilter => "Invalid filter"
  | invalidOperation op left right =>
    "Invalid binary operation, left: " ++ Json.compact left ++ ", right: " ++ Json.compact right ++
      ", operation: " ++ op.name

namespace Operator

/-- Doubles closer than this are equal. -/
def closeness : Float := 0.000001

def onNumbers (op : Operator) (a b : Float) : Value :=
  match op with
  | add => .ofDouble (a + b)
  | subtract => .ofDouble (a - b)
  | multiply => .ofDouble (a * b)
  | divide => .ofDouble (a / b)
  | floorDivide => .ofDouble (a / b).floor
  | modulus => .ofDouble (Decimal.remainder a b)
  | power => .ofDouble (a.pow b)
  | less => .bool (a < b)
  | lessEqual => .bool (a ≤ b)
  | greater => .bool (b < a)
  | greaterEqual => .bool (b ≤ a)
  | equal => .bool ((a - b).abs < closeness)
  | notEqual => .bool !((a - b).abs < closeness)
  | isIn => .bool false

def onStrings (op : Operator) (a b : String) : Option Value :=
  match op with
  | add => some (.string (a ++ b))
  | less => some (.bool (a < b))
  | lessEqual => some (.bool (a ≤ b))
  | greater => some (.bool (b < a))
  | greaterEqual => some (.bool (b ≤ a))
  | equal => some (.bool (a == b))
  | notEqual => some (.bool (a != b))
  | isIn => some (.bool (Text.contains b a))
  | _ => none

/-- Values of different types are never equal. -/
def onOthers (op : Operator) (a b : Value) : Option Value :=
  match op, a, b with
  | isIn, a, .array items => some (.bool (items.any fun v => v.agrees a))
  | isIn, .string k, .object fields => some (.bool (Dict.lookup k fields).isSome)
  | equal, a, b => some (.bool (a.agrees b))
  | notEqual, a, b => some (.bool !(a.agrees b))
  | _, _, _ => none

def apply (op : Operator) (a b : Value) : Except EvalError Value :=
  match a, b with
  | .number x, .number y => .ok (op.onNumbers x.toDouble y.toDouble)
  | .string s, .string t =>
    match op.onStrings s t with
    | some v => .ok v
    | none => .error (.invalidOperation op a b)
  | _, _ =>
    match op.onOthers a b with
    | some v => .ok v
    | none => .error (.invalidOperation op a b)

end Operator

/-- Whether a value is there and counts as true. -/
def isTrue : Except EvalError Value → Bool
  | .ok v => v.isTruthy
  | .error _ => false

/-- The element of a list at a number, which is rounded down and never below zero. -/
def elementAt (v : Value) (x : Float) : Value :=
  match v with
  | .array items => (items[x.floor.toUInt64.toNat]?).getD .null
  | _ => .null

namespace Expr

mutual

def eval (context : Value) : Expr → Except EvalError Value
  | .null => .ok .null
  | .bool b => .ok (.bool b)
  | .number x => .ok (.ofDouble x)
  | .string s => .ok (.string s)
  | .ident name =>
    match context.field? name with
    | some v => .ok v
    | none => .error (.undefined name)
  | .list items => (evalItems context items).map .array
  | .record fields => (evalFields context ∅ fields).map fun d => .object d.entries
  | .connect .either left right =>
    let l := eval context left
    if isTrue l then l else eval context right
  | .connect .both left right =>
    let l := eval context left
    if isTrue l then eval context right else l
  | .operate op left right => do
    let l ← eval context left
    let r ← eval context right
    op.apply l r
  | .choose condition yes no =>
    if isTrue (eval context condition) then eval context yes else eval context no
  | .transform subject name args => do
    let s ← eval context subject
    let as ← evalItems context args
    match Transform.ofName? name with
    | some t => .ok (t.apply (s :: as))
    | none => .error (.unknownTransform name)
  | .index subject key => do
    let s ← eval context subject
    let k ← eval context key
    match k with
    | .string name => .ok ((s.field? name).getD .null)
    | .number n => .ok (elementAt s n.toDouble)
    | _ => .error .invalidIndex
  | .member subject name => do
    let s ← eval context subject
    .ok ((s.field? name).getD .null)
  | .filter subject name op right => do
    let s ← eval context subject
    match s with
    | .array items =>
      let r ← eval context right
      .ok (.array (items.filter fun v => isTrue (op.apply ((v.field? name).getD .null) r)))
    | _ => .error .invalidFilter

def evalItems (context : Value) : List Expr → Except EvalError (List Value)
  | [] => .ok []
  | e :: es => do
    let v ← eval context e
    let vs ← evalItems context es
    .ok (v :: vs)

def evalFields (context : Value) (done : Dict String Value) :
    List (String × Expr) → Except EvalError (Dict String Value)
  | [] => .ok done
  | (k, e) :: fs =>
    if done.contains k then .error (.duplicateKey k)
    else do
      let v ← eval context e
      evalFields context (done.insert k v) fs

end

end Expr

/-- The value of an expression given as text. -/
def evalText (text : String) (context : Value) : Except EvalError Value :=
  match Expr.parse? text with
  | some e => e.eval context
  | none => .error .unparsable

end Workflow.Guard
