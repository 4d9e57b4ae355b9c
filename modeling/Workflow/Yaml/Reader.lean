import Workflow.Data.Document
import Workflow.Decimal.Reader
import Workflow.Yaml.Tree

/-!
What the nodes of a YAML text mean. A plain scalar is null, a boolean, a number or a text by its
form; a quoted one is a text. Where a text is wanted every scalar gives one, and where a whole number
is wanted only a plain one does. Tags of the standard settle the type; others of the author's own
label the node.
-/
namespace Workflow.Yaml

/-! ### Forms of plain scalars -/

def isNull (s : String) : Bool := s == "~" || s == "null" || s == "Null" || s == "NULL"

def bool? : String → Option Bool
  | "true" | "True" | "TRUE" => some true
  | "false" | "False" | "FALSE" => some false
  | _ => none

def digitIn (base : Nat) (c : Char) : Option Nat := (hexDigit? c).filter (· < base)

def digitsIn (base : Nat) (cs : List Char) : Option Nat :=
  if cs.isEmpty then none
  else cs.foldlM (fun n c => (digitIn base c).map fun d => n * base + d) 0

/-- Several digits of which the first is zero, which are a text. -/
def isPaddedNumber (cs : List Char) : Bool :=
  match cs with
  | '0' :: rest => !rest.isEmpty && rest.all Char.isDigit
  | _ => false

def withoutPlus : List Char → List Char
  | '+' :: cs => cs
  | cs => cs

/-- A number in base two, eight or sixteen behind its mark. -/
def prefixed? : List Char → Option Nat
  | '0' :: 'x' :: cs => digitsIn 16 cs
  | '0' :: 'o' :: cs => digitsIn 8 cs
  | '0' :: 'b' :: cs => digitsIn 2 cs
  | _ => none

/-- A whole number without a minus sign. -/
def natural? (s : String) : Option Nat :=
  let cs := withoutPlus s.toList
  match prefixed? cs with
  | some n => some n
  | none => if isPaddedNumber cs then none else digitsIn 10 cs

def negative? (s : String) : Option Int :=
  match s.toList with
  | '-' :: cs =>
    match prefixed? cs with
    | some n => some (-n)
    | none => if isPaddedNumber cs then none else (digitsIn 10 cs).map fun n => -(n : Int)
  | _ => none

/-- A decimal fraction; one too large for a double is none. -/
def double? (s : String) : Option Float :=
  let cs := withoutPlus s.toList
  let (minus, cs) := match cs with
    | '-' :: cs => (true, cs)
    | cs => (false, cs)
  let whole := cs.takeWhile Char.isDigit
  let rest := cs.drop whole.length
  let (part, rest) := match rest with
    | '.' :: rest => (rest.takeWhile Char.isDigit, rest.dropWhile Char.isDigit)
    | rest => ([], rest)
  let exponent? : Option Int := match rest with
    | [] => some 0
    | e :: '+' :: ds => if e = 'e' ∨ e = 'E' then (digitsIn 10 ds).map Int.ofNat else none
    | e :: '-' :: ds => if e = 'e' ∨ e = 'E' then (digitsIn 10 ds).map fun n => -(n : Int) else none
    | e :: ds => if e = 'e' ∨ e = 'E' then (digitsIn 10 ds).map Int.ofNat else none
  match digitsIn 10 (whole ++ part), exponent? with
  | some n, some e =>
    (Decimal.scientific? n (e - part.length)).map fun x => if minus then -x else x
  | _, _ => none

/-- The forms of infinity and of what is not a number. -/
def isNonFinite (s : String) : Bool :=
  [".inf", ".Inf", ".INF", "+.inf", "+.Inf", "+.INF", "-.inf", "-.Inf", "-.INF", ".nan", ".NaN",
    ".NAN"].contains s

def float? (s : String) : Option Float :=
  if isNonFinite s then some (0 / 0) else double? s

def withoutSign : List Char → List Char
  | '+' :: cs => cs
  | '-' :: cs => cs
  | cs => cs

/-- A whole number of its own accord; one of more than 64 bits cannot be told. -/
def integer? (s : String) : Option (Option Int) :=
  match natural? s, negative? s with
  | some n, _ =>
    if n < UInt64.size then some (some n) else if n < Nat.pow 2 128 then some none else none
  | none, some n =>
    if Int64.minValue.toInt ≤ n then some (some n)
    else if -(Nat.pow 2 127 : Nat) ≤ n then some none else none
  | none, none => none

def plainValue (s : String) : Option Scalar :=
  if s.isEmpty || isNull s then some .null
  else match bool? s, integer? s with
    | some b, _ => some (.bool b)
    | none, some n => n.map fun n => .number (.int n)
    | none, none =>
      if isPaddedNumber (withoutSign s.toList) then some (.text s)
      else match float? s with
        | some x => some (.number (.double x))
        | none => some (.text s)

/-! ### Nodes -/

def boolTag : String := "tag:yaml.org,2002:bool"
def intTag : String := "tag:yaml.org,2002:int"
def floatTag : String := "tag:yaml.org,2002:float"
def nullTag : String := "tag:yaml.org,2002:null"

/-- The value of a scalar of its own accord. -/
def ownValue (tag : Option String) (text : String) (style : Style) : Option Scalar :=
  match tag with
  | none => if style = .plain then plainValue text else some (.text text)
  | some tag =>
    if tag = boolTag then (bool? text).map .bool
    else if tag = intTag then (integer? text).bind fun n => n.map fun n => .number (.int n)
    else if tag = floatTag then (float? text).map fun x => .number (.double x)
    else if tag = nullTag then (if isNull text then some .null else none)
    else some (.text text)

def leaf (tag : Option String) (text : String) (style : Style) : Leaf where
  value := ownValue tag text style
  text := some text
  natural :=
    if style = .plain ∨ (style = .literal ∧ tag = some intTag) then natural? text else none
  absent :=
    if style ≠ .plain then some false
    else if tag = some nullTag then (if isNull text then some true else none)
    else if tag.isSome then some false
    else some (text.isEmpty || isNull text)
  blank := style = .plain && text.isEmpty

/-- A node that cannot be read as anything. -/
def unreadable : Leaf := ⟨none, none, none, none, false⟩

def isLabel (tag : Option String) : Bool :=
  match tag with
  | some t => t.startsWith "!"
  | none => false

def labelledBy (tag : Option String) (d : Document) : Document :=
  if isLabel tag then .labelled d else d

mutual

def document : Tree → Document
  | .scalar tag text style => labelledBy tag (.leaf (leaf tag text style))
  | .sequence tag items => labelledBy tag (.list false (documents items))
  | .mapping tag pairs => labelledBy tag (.record (documentPairs pairs))
  | .loop => .leaf unreadable

def documents : List Tree → List Document
  | [] => []
  | t :: ts => document t :: documents ts

def documentPairs : List (Tree × Tree) → List (Document × Document)
  | [] => []
  | (k, v) :: ps => (document k, document v) :: documentPairs ps

end

/-- A text that holds one document. -/
def read? (text : String) : Option Document := (Tree.ofText? text).map document

end Workflow.Yaml
