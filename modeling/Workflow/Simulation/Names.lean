import Workflow.Supply
import Workflow.Time.Text
import Workflow.Data.Value

/-!
Reports of simulated runs, which come out the same each time. New ids are shown by names in the order
in which they come up, and instants by how they lie to the clock of the run.
-/
namespace Workflow.Simulation

open Time (Instant Span)

/-- The moment in the place of the wall clock. -/
def wall : Instant := Instant.ofDate ⟨2026, 6, 15⟩ (.ofHms 12 0 0)

/-- The upper half of all ids that a simulation gives out. -/
def idSpace : Nat := 0x5e551011c0de7000

/-- A clock that goes on by a millisecond at each reading, and ids of their own space. -/
def supply : Supply :=
  .ofSequences (fun n => wall.shift (Span.ofMilliseconds n))
    fun n => ⟨BitVec.ofNat 128 (idSpace * UInt64.size + UInt64.size / 2 + n)⟩

def isGiven (u : Uuid) : Bool := u.bits.toNat / UInt64.size == idSpace

/-- The ids that have names so far, in order. -/
structure Names where
  instances : List Uuid
  tasks : List Uuid
deriving DecidableEq, Repr

namespace Names

def empty : Names := ⟨[], []⟩

/-- The name of an id by its position, and the ids with it among them. -/
def numbered (label : String) (l : List Uuid) (u : Uuid) : String × List Uuid :=
  match l.idxOf? u with
  | some n => (s!"{label}-{n + 1}", l)
  | none => (s!"{label}-{l.length + 1}", l ++ [u])

def ofInstance (u : Uuid) : StateM Names String := fun names =>
  if isGiven u then
    let (name, instances) := numbered "inst" names.instances u
    (name, { names with instances })
  else (u.text, names)

def ofTask (u : Uuid) : StateM Names String := fun names =>
  if isGiven u then
    let (name, tasks) := numbered "task" names.tasks u
    (name, { names with tasks })
  else (u.text, names)

/-- The id that a name or a written id stands for. -/
def resolve (names : Names) (s : String) : Option Uuid :=
  let named (label : String) (l : List Uuid) : Option Uuid :=
    (l.zipIdx.find? fun p => s == s!"{label}-{p.2 + 1}").map Prod.fst
  (named "inst" names.instances).or ((named "task" names.tasks).or (Uuid.parse? s))

/-- A cache key with ids in the place of names. -/
def resolveKey (names : Names) (key : String) : String :=
  ":".intercalate ((key.splitOn ":").map fun part =>
    if part.startsWith "inst-" || part.startsWith "task-" then
      ((names.resolve part).map Uuid.text).getD part
    else part)

/-- Puts names in the place of ids at the starts of words. An id behind the word "task" is one of a
task. -/
def inWords (behindTask : Bool) : List String → StateM Names (List String)
  | [] => return []
  | w :: ws => do
    let cs := w.toList
    match Uuid.parse? (String.ofList (cs.take 36)) with
    | some u =>
      let name ← if behindTask then ofTask u else ofInstance u
      return (name ++ String.ofList (cs.drop 36)) :: (← inWords false ws)
    | none => return w :: (← inWords (w == "task") ws)

def inMessage (s : String) : StateM Names String := do
  return " ".intercalate (← inWords false (s.splitOn " "))

end Names

/-! ### Instants -/

/-- An instant as it is shown: as a tick's, as about now, or as it is. -/
def shownInstant (ticks : List Instant) (t : Instant) : String :=
  if ticks.contains t then "tick"
  else if (t.seconds - wall.seconds).natAbs ≤ 2 * 86400 then "now"
  else t.text

def instant? : Option Value → Option Instant
  | some (.string s) => (Instant.parseStrict s).toOption
  | _ => none

/-- A deadline as it is shown: by its distance from the start of the instance, if that was now. -/
def shownDeadline (ticks : List Instant) (created : Option Instant) (t : Instant) : String :=
  match created with
  | some c =>
    if shownInstant [] c == "now" then s!"now+{t.seconds - c.seconds}s" else shownInstant ticks t
  | none => shownInstant ticks t

def instantKeys : List String :=
  ["created_at", "updated_at", "completed_at", "deadline", "at", "fired_at"]

/-! ### Values -/

/-- A text as it is shown under a key among the fields of its object. -/
def shownText (ticks : List Instant) (fields : List (String × Value)) (key s : String) :
    StateM Names String :=
  if instantKeys.contains key then
    return match instant? (some (.string s)) with
      | some t =>
        if key == "deadline" then shownDeadline ticks (instant? (fields.lookup "created_at")) t
        else shownInstant ticks t
      | none => s
  else if key == "message" then Names.inMessage s
  else match Uuid.parse? s with
    | none => return s
    | some u =>
      if !isGiven u then return s
      else if key == "task_ids" || (key == "id" && (fields.lookup "instance_id").isSome) then
        Names.ofTask u
      else Names.ofInstance u

mutual

/-- A value as it is shown. What variables hold is left as it is. -/
def shown (ticks : List Instant) (fields : List (String × Value)) (key : String) :
    Value → StateM Names Value
  | .string s => return .string (← shownText ticks fields key s)
  | .array l => return .array (← shownItems ticks key l)
  | .object fields => return .object (← shownFields ticks fields fields)
  | v => return v

def shownItems (ticks : List Instant) (key : String) : List Value → StateM Names (List Value)
  | [] => return []
  | v :: vs => do
    let v ← shown ticks [] key v
    return v :: (← shownItems ticks key vs)

def shownFields (ticks : List Instant) (all : List (String × Value)) :
    List (String × Value) → StateM Names (List (String × Value))
  | [] => return []
  | (k, v) :: rest => do
    let v ← if k == "variables" || k == "output" then pure v else shown ticks all k v
    return (k, v) :: (← shownFields ticks all rest)

end

end Workflow.Simulation
