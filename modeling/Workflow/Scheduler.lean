import Workflow.Engine.Operations
import Workflow.Reminder.Rule

/-!
Ticks: passes over the active instances that end those whose deadline is over, and remind of the
others. One tick runs at a time. A reminder is marked in the cache, so that the same occurrence is
told once.
-/
namespace Workflow

open Time (Instant Span)
open Engine Engine.Action Engine.Attempt

structure Scheduler where
  engine : Engine
  /-- How far a tick looks back for occurrences. -/
  tolerance : Span

structure TickReport where
  /-- How many active instances there were. -/
  scanned : Nat
  timedOut : List Uuid
  /-- How many reminders were sent. -/
  reminders : Nat
  /-- How many instances could not be dealt with. -/
  errors : Nat
deriving DecidableEq, Repr

inductive TickOutcome where
  /-- The lock was held. -/
  | skipped
  | ran (report : TickReport)
  /-- The window before the tick reaches out of the calendar; nothing more was looked at. -/
  | abandoned
deriving DecidableEq, Repr

namespace Scheduler

/-- The tolerance that the settings ask for, or a minute if a span cannot hold it. -/
def configuredTolerance (c : Config) : Span :=
  (Span.ofSeconds? c.reminderTolerance.toNat).getD (Span.ofSeconds 60)

def ofEngine (e : Engine) : Scheduler := ⟨e, configuredTolerance e.config⟩

/-- Seconds from one tick to the next, at least one. -/
def interval (s : Scheduler) : UInt64 :=
  if s.engine.config.reminderInterval = 0 then 1 else s.engine.config.reminderInterval

/-- A reminder of an instance, or of one of its nodes. -/
structure Source where
  node : Option String
  param : ReminderParam
deriving DecidableEq, Repr

/-- The reminder of the instance and those of the task nodes where it waits. -/
def sources (d : Definition) (i : Instance) : List Source :=
  (i.reminder.map (Source.mk none)).toList ++ i.currentNodes.toList.filterMap fun id => do
    let n ← d.node? id
    let param ← n.reminder
    some ⟨some n.id, param⟩

/-- The mark that an occurrence was told. -/
def reminderKey (i : Instance) (source : Source) (occurrence : Instant) : String :=
  let place := source.node.getD "-"
  s!"remind:{i.id}:{place}:{occurrence.minuteStamp}"

/-- The open tasks that a reminder is about. -/
def remindedTasks (source : Source) (tasks : List Task) : List Uuid :=
  (tasks.filter fun t => source.node.all (t.node == ·)).map Task.id

/-- How a visit to an instance ends. -/
inductive Visit where
  | timedOut
  | reminded (count : Nat)
  | abandoned
deriving DecidableEq, Repr

/-- Tells of an occurrence unless that was done before; the answer is whether it was done now. -/
def send (s : Scheduler) (i : Instance) (now : Instant) (source : Source) (occurrence : Instant) :
    Action Bool := do
  let key := reminderKey i source occurrence
  match ← ask (.lookUp key) with
  | some _ => return false
  | none =>
    let tasks := remindedTasks source (← openTasks i.id)
    notify s.engine.bus
      (.reminder ⟨i.id, i.definitionId, source.node, tasks, occurrence, now⟩)
    ask (.remember key (.string now.offsetText))
    return true

/-- Sends the reminders that are due, after so many others. -/
def remind (s : Scheduler) (i : Instance) (now : Instant) (sent : Nat) :
    List Source → Action Visit
  | [] => return .reminded sent
  | source :: rest => do
    let rule ← configured ((Reminder.Rule.compile source.param).mapError .reminder)
    match rule.dueOccurrence now s.tolerance with
    | .error .outOfCalendar => return .abandoned
    | .ok none => remind s i now sent rest
    | .ok (some occurrence) =>
      if ← send s i now source occurrence then remind s i now (sent + 1) rest
      else remind s i now sent rest

/-- Whether the deadline of an instance is over. -/
def isOverdue (i : Instance) (now : Instant) : Bool := i.deadline.any (· ≤ now)

def visit (s : Scheduler) (i : Instance) (now : Instant) : Action Visit := do
  if isOverdue i now then
    close s.engine i.id .timeout now
    return .timedOut
  else
    let d ← Engine.definition s.engine i.definitionId
    remind s i now 0 (sources d i)

/-- A report with one more instance, and what its visit came to. -/
def counted (r : TickReport) (i : Instance) : Except EngineError Visit → TickReport
  | .ok .timedOut => { r with scanned := r.scanned + 1, timedOut := r.timedOut ++ [i.id] }
  | .ok (.reminded n) => { r with scanned := r.scanned + 1, reminders := r.reminders + n }
  | .ok .abandoned => { r with scanned := r.scanned + 1 }
  | .error _ => { r with scanned := r.scanned + 1, errors := r.errors + 1 }

/-- Visits instances one after another. A visit that fails does not keep the others from theirs. -/
def visitAll (s : Scheduler) (now : Instant) (r : TickReport) : List Instance → Action TickOutcome
  | [] => return .ran r
  | i :: is => do
    match ← outcome (visit s i now) with
    | .ok .abandoned => return .abandoned
    | v => visitAll s now (counted r i v) is

/-- A pass over the instances that are active at its start. -/
def pass (s : Scheduler) (now : Instant) : Action TickOutcome := do
  let instances ← accepted (← ask .listActive)
  visitAll s now ⟨0, [], 0, 0⟩ instances

/-- One pass at an instant, unless the lock is held. -/
def tick (s : Scheduler) (now : Instant) : Action TickOutcome := do
  if ← ask .acquire then
    let r ← outcome (s.pass now)
    ask .release
    resume r
  else return .skipped

/-- Ticks at an interval from an instant on, at most so many times and until a condition holds. A tick
that fails does not keep the next ones from running. -/
def tickFrom (s : Scheduler) (interval : Span) (stop : Ambient → Bool) (now : Instant) :
    (ticks : Nat) → Action Unit
  | 0 => return
  | ticks + 1 => do
    discard (outcome (s.tick now))
    if stop (← get) then return
    else tickFrom s interval stop (now.shift interval) ticks

def run (s : Scheduler) (interval : Span) (stop : Ambient → Bool) (ticks : Nat) : Action Unit := do
  s.tickFrom interval stop (← Attempt.now) ticks

end Scheduler

end Workflow
