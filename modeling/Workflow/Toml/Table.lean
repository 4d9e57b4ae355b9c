import Workflow.Data.Document

/-!
The tables of a TOML text while it is read. A table may be defined by a header once and by dotted
keys in one place only; a table that a header merely passes through can still get a header of its
own.
-/
namespace Workflow.Toml

inductive Item where
  | leaf (l : Leaf)
  | array (items : List Item)
  | inline (fields : List (String × Item))
  /-- `implicit` until it has a header, and `dotted` if dotted keys made it. -/
  | table (implicit dotted : Bool) (fields : List (String × Item))
  /-- An array of tables, of which the last one is still open. -/
  | tables (last : List (String × Item)) (earlier : List (List (String × Item)))

abbrev Fields := List (String × Item)

namespace Fields

/-- Puts another item in the place of a key's, or behind the others. -/
def set (k : String) (i : Item) : Fields → Fields
  | [] => [(k, i)]
  | (x, j) :: fs => if x = k then (k, i) :: fs else (x, j) :: set k i fs

/-- Adds an item under a dotted key. Its last table is one that dotted keys made, unless the key has
no dots. -/
def put (dotted inside : Bool) (key : String) (item : Item) (fields : Fields) :
    (path : List String) → Option Fields
  | [] =>
    if dotted = inside ∧ (fields.lookup key).isNone then some (fields ++ [(key, item)]) else none
  | k :: ks =>
    match fields.lookup k with
    | none => (put true true key item [] ks).map fun t => fields ++ [(k, .table true true t)]
    | some (.table true dotted t) =>
      (put dotted true key item t ks).map fun t => set k (.table true dotted t) fields
    | some (.tables last earlier) =>
      (put false true key item last ks).map fun t => set k (.tables t earlier) fields
    | some _ => none

/-- Changes the fields of the table that a path leads to, and makes the tables on the way that are
not there. -/
def change (f : Fields → Option Fields) (fields : Fields) : (path : List String) → Option Fields
  | [] => f fields
  | k :: ks =>
    match fields.lookup k with
    | none => (change f [] ks).map fun t => fields ++ [(k, .table true false t)]
    | some (.table implicit dotted t) =>
      (change f t ks).map fun t => set k (.table implicit dotted t) fields
    | some (.tables last earlier) => (change f last ks).map fun t => set k (.tables t earlier) fields
    | some _ => none

def openTable (key : String) (fields : Fields) : Option Fields :=
  match fields.lookup key with
  | none => some (fields ++ [(key, .table false false [])])
  | some (.table true false t) => some (set key (.table false false t) fields)
  | some _ => none

def openArray (key : String) (fields : Fields) : Option Fields :=
  match fields.lookup key with
  | none => some (fields ++ [(key, .tables [] [])])
  | some (.tables last earlier) => some (set key (.tables [] (last :: earlier)) fields)
  | some _ => none

end Fields

mutual

def document : Item → Document
  | .leaf l => .leaf l
  | .array items => .list true (documents items)
  | .inline fields => .record (fieldDocuments fields)
  | .table _ _ fields => .record (fieldDocuments fields)
  | .tables last earlier => .list true (tableDocuments earlier ++ [.record (fieldDocuments last)])

def documents : List Item → List Document
  | [] => []
  | i :: is => document i :: documents is

def fieldDocuments : List (String × Item) → List (Document × Document)
  | [] => []
  | (k, i) :: fs => (.leaf (.ofScalar (.text k)), document i) :: fieldDocuments fs

def tableDocuments : List (List (String × Item)) → List Document
  | [] => []
  | t :: ts => .record (fieldDocuments t) :: tableDocuments ts

end

end Workflow.Toml
