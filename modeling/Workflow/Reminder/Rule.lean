import Workflow.Reminder.Occurrence
import Workflow.Reminder.Param
import Workflow.Reminder.Schedule

/-!
Reminders ready for use: when one is due, and when it is due next.
-/
namespace Workflow.Reminder

open Time

structure Rule where
  cron : Cron
  param : ReminderParam
deriving DecidableEq, Repr

namespace Rule

/-- The first entry that is no weekday. -/
def badWeekday? (p : ReminderParam) : Option UInt8 :=
  p.weekdays.find? fun d => d.toNat < 1 || 7 < d.toNat

def compile (p : ReminderParam) : Except ReminderError Rule :=
  match badWeekday? p with
  | some d => .error (.weekday d)
  | none =>
    match normalize p.cadence with
    | .error e => .error (.schedule e)
    | .ok line =>
      match Cron.parse line with
      | .error e => .error (.schedule (.cron p.cadence e))
      | .ok cron => .ok ⟨cron, p⟩

/-- Whether the weekday and the time of day of an instant suit the reminder. -/
def allows (r : Rule) (t : Instant) : Bool :=
  r.param.allowsWeekday t.weekday && r.param.allowsTime t.timeOfDay

/-- The window before `now` reaches out of the calendar. -/
inductive DueError where
  | outOfCalendar
deriving DecidableEq, Repr

/-- The occurrence that makes the reminder due: the first one in the window that ends now. -/
def dueOccurrence (r : Rule) (now : Instant) (tolerance : Span) :
    Except DueError (Option Instant) :=
  if r.allows now then
    match now.shift? (-tolerance) with
    | none => .error .outOfCalendar
    | some start => .ok ((r.cron.after? start).filter (· ≤ now))
  else .ok none

def isDue (r : Rule) (now : Instant) (tolerance : Span) : Except DueError Bool :=
  (r.dueOccurrence now tolerance).map Option.isSome

/-- The first one that suits the reminder among an occurrence and so many listed behind it. -/
def allowedFrom? (r : Rule) (t : Instant) : (others : Nat) → Option Instant
  | 0 => if r.allows t then some t else none
  | n + 1 => if r.allows t then some t else (r.cron.following? t).bind fun u => allowedFrom? r u n

/-- How many occurrences are looked at before giving up. -/
def scanLimit : Nat := 10000

def nextDue? (r : Rule) (after : Instant) : Option Instant :=
  (r.cron.after? after).bind fun t => r.allowedFrom? t (scanLimit - 1)

end Rule

/-- Whether a reminder that is not compiled yet is due. -/
def isDue (p : ReminderParam) (now : Instant) (tolerance : Span) :
    Except ReminderError (Except Rule.DueError Bool) :=
  (Rule.compile p).map fun r => r.isDue now tolerance

end Workflow.Reminder
