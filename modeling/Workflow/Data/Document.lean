import Workflow.Data.Value
import Workflow.Data.Record

/-!
Documents as they are read before their meaning is known. In a format that leaves types open a leaf
may be read in several ways: `12` is a whole number, and a text where a text is wanted. A document
taken aside whole (`settled`) keeps only the type that each leaf has of its own accord.
-/
namespace Workflow

inductive Scalar where
  | null
  | bool (b : Bool)
  | number (n : Number)
  | text (s : String)
deriving DecidableEq, Repr

/-- What a leaf can be read as. -/
structure Leaf where
  /-- Of its own accord; nothing if it claims to be what it is not. -/
  value : Option Scalar
  text : Option String
  natural : Option Nat
  /-- Whether an optional member would count as missing; unknown if it claims so wrongly. -/
  absent : Option Bool
  /-- Nothing is written at all, which stands for an empty list or record too. -/
  blank : Bool
deriving DecidableEq, Repr

inductive Document where
  | leaf (l : Leaf)
  /-- The items may be `positional`: they stand for the members of a record as well. -/
  | list (positional : Bool) (items : List Document)
  | record (fields : List (Document × Document))
  /-- Behind a label of the author's, which only a reader that knows the type looks through. -/
  | labelled (d : Document)
deriving Repr

namespace Leaf

def ofScalar (s : Scalar) : Leaf where
  value := some s
  text := match s with
    | .text t => some t
    | _ => none
  natural := match s with
    | .number (.int n) => if 0 ≤ n then some n.toNat else none
    | _ => none
  absent := some (s == .null)
  blank := false

end Leaf

namespace Document

mutual

def ofValue : Value → Document
  | .null => .leaf (.ofScalar .null)
  | .bool b => .leaf (.ofScalar (.bool b))
  | .number n => .leaf (.ofScalar (.number n))
  | .string s => .leaf (.ofScalar (.text s))
  | .array items => .list true (ofItems items)
  | .object fields => .record (ofFields fields)

def ofItems : List Value → List Document
  | [] => []
  | v :: vs => ofValue v :: ofItems vs

def ofFields : List (String × Value) → List (Document × Document)
  | [] => []
  | (k, v) :: fs => (.leaf (.ofScalar (.text k)), ofValue v) :: ofFields fs

end

mutual

def settled : Document → Option Document
  | .leaf l => l.value.map fun s => .leaf (.ofScalar s)
  | .list _ items => (settledItems items).map (.list true)
  | .record fields => (settledFields fields).map .record
  | .labelled _ => none

def settledItems : List Document → Option (List Document)
  | [] => some []
  | d :: ds =>
    match d.settled, settledItems ds with
    | some d, some ds => some (d :: ds)
    | _, _ => none

def settledFields : List (Document × Document) → Option (List (Document × Document))
  | [] => some []
  | (k, d) :: fs =>
    match k.settled, d.settled, settledFields fs with
    | some k, some d, some fs => some ((k, d) :: fs)
    | _, _, _ => none

end

def text? : Document → Option String
  | .leaf l => l.text
  | .labelled d => d.text?
  | _ => none

/-- A whole number from zero to `max`. -/
def natural? (max : Nat) : Document → Option Nat
  | .leaf l => l.natural.filter (· ≤ max)
  | .labelled d => d.natural? max
  | _ => none

def word32? (d : Document) : Option UInt32 := (d.natural? (UInt32.size - 1)).map UInt32.ofNat

def word64? (d : Document) : Option UInt64 := (d.natural? (UInt64.size - 1)).map UInt64.ofNat

def items? : Document → Option (List Document)
  | .leaf l => if l.blank then some [] else none
  | .list _ items => some items
  | .labelled d => d.items?
  | .record _ => none

/-- The fields of a record, all of which need names. -/
def fields? : Document → Option (List (String × Document))
  | .leaf l => if l.blank then some [] else none
  | .record fields => fields.mapM fun f => f.1.text?.map fun k => (k, f.2)
  | .labelled d => d.fields?
  | .list _ _ => none

/-- The members of a record, given by name or by position. -/
def members? (names : List (List String)) : Document → Option (List (Option Document))
  | .list true items => Record.ofItems names items
  | .labelled d => d.members? names
  | d => d.fields?.bind (Record.ofFields names)

def isAbsent? : Document → Option Bool
  | .leaf l => l.absent
  | _ => some false

/-- A member that may be missing or null. -/
def optional (read : Document → Option α) : Option Document → Option (Option α)
  | none => some none
  | some d =>
    match d.isAbsent? with
    | some true => some none
    | some false => (read d).map some
    | none => none

def list? (read : Document → Option α) (d : Document) : Option (List α) :=
  d.items?.bind fun ds => ds.mapM read

/-- A map from names; of two entries with one name the later counts. -/
def dict? (read : Document → Option α) (d : Document) : Option (Dict String α) := do
  let fields ← d.fields?
  let entries ← fields.mapM fun f => (read f.2).map fun a => (f.1, a)
  some (Dict.ofList entries)

def bool? : Document → Option Bool
  | .leaf { value := some (.bool b), .. } => some b
  | _ => none

/-- The name of a choice, alone or as the only field of a record, with nothing in it. -/
def choice? : Document → Option String
  | .leaf { value := some (.text s), .. } => some s
  | .record [(k, d)] => if d.isAbsent? = some true then k.text? else none
  | _ => none

mutual

/-- The value of a document whose leaves all have one of their own accord. -/
def value? : Document → Option Value
  | .leaf l => l.value.map fun
    | .null => .null
    | .bool b => .bool b
    | .number n => .number n
    | .text s => .string s
  | .list _ items => (itemValues? items).map .array
  | .record fields => (fieldValues? fields).map .ofFields
  | .labelled _ => none

def itemValues? : List Document → Option (List Value)
  | [] => some []
  | d :: ds =>
    match d.value?, itemValues? ds with
    | some v, some vs => some (v :: vs)
    | _, _ => none

def fieldValues? : List (Document × Document) → Option (List (String × Value))
  | [] => some []
  | (k, d) :: fs =>
    match k.text?, d.value?, fieldValues? fs with
    | some k, some v, some fs => some ((k, v) :: fs)
    | _, _, _ => none

end

end Document

end Workflow
