import Workflow.Data.Value
import Workflow.Text.Blank
import Workflow.Text.Case
import Workflow.Text.Search

/-!
The named functions that a value can be passed through with `|`. A missing or unfitting argument
stands for a default, so none of them fails.
-/
namespace Workflow.Guard

inductive Transform where
  | lower | upper | trim | split | not | contains | startsWith | endsWith | length
deriving DecidableEq, Repr

namespace Transform

def ofName? : String → Option Transform
  | "lower" => some lower
  | "upper" => some upper
  | "trim" => some trim
  | "split" => some split
  | "not" => some not
  | "contains" => some contains
  | "startsWith" => some startsWith
  | "endsWith" => some endsWith
  | "length" => some length
  | _ => none

/-- The text at a place among the arguments. -/
def textAt (args : List Value) (i : Nat) (default : String) : String :=
  match args[i]? with
  | some (.string s) => s
  | _ => default

def holds : Value → Value → Bool
  | .string s, .string n => Text.contains s n
  | .array items, v => items.any fun w => w.agrees v
  | .object fields, .string k => (Dict.lookup k fields).isSome
  | _, _ => false

def size : Value → Nat
  | .string s => s.length
  | .array items => items.length
  | .object fields => fields.length
  | _ => 0

/-- The subject is the first of the arguments. -/
def apply (t : Transform) (args : List Value) : Value :=
  let subject := args.headD .null
  match t with
  | lower => .string (Text.lower (textAt args 0 ""))
  | upper => .string (Text.upper (textAt args 0 ""))
  | trim => .string (Text.trim (textAt args 0 ""))
  | split => .array ((Text.split (textAt args 0 "") (textAt args 1 ",")).map .string)
  | not => .bool !subject.isTruthy
  | contains => .bool (holds subject (args[1]?.getD .null))
  | startsWith => .bool (Text.hasPrefix (textAt args 0 "") (textAt args 1 ""))
  | endsWith => .bool (Text.hasSuffix (textAt args 0 "") (textAt args 1 ""))
  | length => .number (.double (Float.ofNat (size subject)))

end Transform

end Workflow.Guard
