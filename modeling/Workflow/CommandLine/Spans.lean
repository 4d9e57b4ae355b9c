import Workflow.CommandLine.Filter

/-!
The spans of a trace that a filter keeps, in the order in which they closed. A remark goes to the
innermost kept span around it, and one outside of all is lost.
-/
namespace Workflow.CommandLine

/-- A span as it is written out. -/
structure SpanRecord where
  kind : SpanKind
  /-- The position of the span around it in the list of all. -/
  parent : Option Nat
  /-- What it told of itself, in order; of two with one name the later counts. -/
  told : List (Attribute × String)
  remarks : List Remark
deriving DecidableEq, Repr

/-- A kept span that is still open. What it has gathered stands latest first. -/
structure OpenSpan where
  kind : SpanKind
  number : Nat
  told : List (Attribute × String)
  remarks : List Remark
deriving DecidableEq, Repr

/-- The open spans, innermost first; those that are not kept are gaps. -/
structure Collection where
  pending : List (Option OpenSpan)
  /-- The closed spans, latest first, with their numbers and those of the spans around them. -/
  closed : List (Nat × Option Nat × OpenSpan)
  opened : Nat
deriving DecidableEq, Repr

namespace Collection

def empty : Collection := ⟨[], [], 0⟩

/-- What the open spans let through inside them. -/
def scope (f : Filter) (c : Collection) : Threshold :=
  (c.pending.filterMap id).foldl (fun t s => t.wider (f.within s.kind s.told)) none

/-- Changes the innermost kept span. -/
def updateInnermost (change : OpenSpan → OpenSpan) : List (Option OpenSpan) → List (Option OpenSpan)
  | [] => []
  | some s :: rest => some (change s) :: rest
  | none :: rest => none :: updateInnermost change rest

def update (c : Collection) (change : OpenSpan → OpenSpan) : Collection :=
  { c with pending := updateInnermost change c.pending }

def OpenSpan.tell (what : Attribute) (value : String) (s : OpenSpan) : OpenSpan :=
  if s.kind.attributes.contains what then { s with told := (what, value) :: s.told } else s

def add (f : Filter) (c : Collection) : TraceEntry → Collection
  | .remark r =>
    if f.keepsRemark (c.scope f) r then c.update fun s => { s with remarks := r :: s.remarks } else c
  | .opened k told =>
    if f.keepsSpan (c.scope f) k then
      { c with
        pending := some ⟨k, c.opened, told.reverse, []⟩ :: c.pending
        opened := c.opened + 1 }
    else { c with pending := none :: c.pending }
  | .recorded what value => c.update (OpenSpan.tell what value)
  | .closed =>
    match c.pending with
    | [] => c
    | none :: rest => { c with pending := rest }
    | some s :: rest =>
      let around := (rest.findSome? id).map OpenSpan.number
      { c with pending := rest, closed := (s.number, around, s) :: c.closed }

/-- The closed spans, with positions in the place of numbers. -/
def records (c : Collection) : List SpanRecord :=
  let closed := c.closed.reverse
  let numbers := closed.map Prod.fst
  closed.map fun (_, around, s) =>
    ⟨s.kind, around.bind numbers.idxOf?, s.told.reverse, s.remarks.reverse⟩

end Collection

/-- The spans of a trace, of which the first entry stands first. -/
def spans (f : Filter) (trace : List TraceEntry) : List SpanRecord :=
  (trace.foldl (Collection.add f) .empty).records

/-! ### As text -/

def remarkLines (r : Remark) : List String :=
  s!"    {r.level.text} {r.message}" :: r.fields.map fun f => s!"      {f.1}: {f.2}"

def SpanRecord.lines (position : Nat) (s : SpanRecord) : List String :=
  [s!"Span {position}: {s.kind.name}"] ++ (s.parent.map fun p => s!"  Inside span {p}").toList ++
    (s.told.map fun t => s!"  {t.1.name}: {t.2}") ++ s.remarks.flatMap remarkLines

def spanLines (spans : List SpanRecord) : List String :=
  spans.zipIdx.flatMap fun s => s.1.lines s.2

end Workflow.CommandLine
