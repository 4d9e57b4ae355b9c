import Workflow.Uuid

/-!
Reports in which ids are told apart by numbers, in the order in which they come up.
-/
namespace Workflow.Simulation

/-- The ids that have numbers so far, in order. -/
abbrev Numbers := List Uuid

/-- A number in the form of an id, in decimal digits. -/
def numberText (n : Nat) : List Char :=
  let digits := Nat.toDigits 10 n
  "00000000-0000-0000-0000-".toList ++ List.replicate (12 - digits.length) '0' ++ digits

def numberOf (u : Uuid) : StateM Numbers (List Char) := fun ids =>
  match ids.idxOf? u with
  | some i => (numberText (i + 1), ids)
  | none => (numberText (ids.length + 1), ids ++ [u])

/-- The id that a text begins with, in the form with hyphens. -/
def leadingId? (cs : List Char) : Option Uuid :=
  let head := cs.take 36
  if head.length = 36 then Uuid.parse? (String.ofList head) else none

/-- Puts numbers in the place of ids; `skip` characters still belong to the last one. -/
def numberedFrom : (skip : Nat) → List Char → StateM Numbers (List Char)
  | _, [] => return []
  | skip + 1, _ :: cs => numberedFrom skip cs
  | 0, c :: cs =>
    match leadingId? (c :: cs) with
    | some u => do return (← numberOf u) ++ (← numberedFrom 35 cs)
    | none => do return c :: (← numberedFrom 0 cs)

def numbered (s : String) : StateM Numbers String := do
  return String.ofList (← numberedFrom 0 s.toList)

end Workflow.Simulation
