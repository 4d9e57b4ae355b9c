import Workflow.CommandLine.Arguments
import Workflow.CommandLine.Outcome
import Workflow.Config
import Workflow.Reminder.Rule

/-!
The command that tells whether a reminder is due at a moment, and when it is due next.
-/
namespace Workflow.CommandLine

open Time (Instant Span)
open Reminder (Rule)

inductive RemindError where
  | workTime (cause : WorkTime.ParseError)
  | badMoment (text : String)
  | toleranceOutOfRange
  | reminder (cause : ReminderError)
deriving DecidableEq, Repr

def RemindError.message : RemindError → String
  | workTime cause => cause.message
  | badMoment text => s!"Invalid --at '{text}': expected RFC 3339"
  | toleranceOutOfRange => "Tolerance out of range"
  | reminder cause => cause.message

/-- What is asked of a reminder, read. -/
structure RemindQuestion where
  param : ReminderParam
  rule : Rule
  moment : Instant
  tolerance : Span
deriving DecidableEq, Repr

def readMoment (now : Instant) : Option String → Except RemindError Instant
  | none => .ok now
  | some text =>
    match Instant.parseStrict text with
    | .ok t => .ok t
    | .error _ => .error (.badMoment text)

/-- A tolerance that a span can hold. -/
def readTolerance (seconds : UInt64) : Except RemindError Span :=
  match Span.ofSeconds? seconds.toNat with
  | some span => .ok span
  | none => .error .toleranceOutOfRange

namespace RemindRequest

/-- Reads a request; the settings stand in for a tolerance that it leaves out. -/
def read (r : RemindRequest) (config : Config) (now : Instant) :
    Except RemindError RemindQuestion := do
  let workTime ← (r.workTime.mapM WorkTime.parse).mapError .workTime
  let param : ReminderParam := ⟨r.cadence, r.weekdays, workTime⟩
  let moment ← readMoment now r.moment
  let tolerance ← readTolerance (r.tolerance.getD config.reminderTolerance)
  let rule ← (Rule.compile param).mapError .reminder
  return ⟨param, rule, moment, tolerance⟩

end RemindRequest

/-- The occurrence that makes a reminder due, and the next time when it is. -/
structure RemindAnswer where
  occurrence : Option Instant
  next : Option Instant
deriving DecidableEq, Repr

namespace RemindQuestion

def answer (q : RemindQuestion) : Except Rule.DueError RemindAnswer := do
  let occurrence ← q.rule.dueOccurrence q.moment q.tolerance
  return ⟨occurrence, q.rule.nextDue? q.moment⟩

def instantOrNull (t : Option Instant) : Value := orNull (fun t => .string t.offsetText) t

def toValue (q : RemindQuestion) (a : RemindAnswer) : Value :=
  .object [("reminder", q.param.toValue), ("at", .string q.moment.offsetText),
    ("due", .bool a.occurrence.isSome), ("occurrence", instantOrNull a.occurrence),
    ("next_due", instantOrNull a.next)]

def verdictLine (q : RemindQuestion) : Option Instant → String
  | some t => s!"  ✓ Due at {q.moment.offsetText} (occurrence {t.offsetText})"
  | none => s!"  ✗ Not due at {q.moment.offsetText}"

def weekdayLines : List UInt8 → List String
  | [] => []
  | days => ["  Weekdays: " ++ ",".intercalate (days.map fun d => toString d.toNat)]

def lines (q : RemindQuestion) (a : RemindAnswer) : List String :=
  ["", q.verdictLine a.occurrence] ++ weekdayLines q.param.weekdays ++
    (q.param.workTime.map fun w => s!"  Work time: {w.text}").toList ++
    ["  Next due: " ++ (a.next.map Instant.offsetText).getD "never", ""]

end RemindQuestion

def remind (config : Config) (now : Instant) (json : Bool) (r : RemindRequest) : Outcome :=
  match r.read config now with
  | .error e => .failed e.message
  | .ok q =>
    match q.answer with
    | .error .outOfCalendar => .broken
    | .ok a => .done (if json then jsonText (q.toValue a) else textOf (q.lines a))

end Workflow.CommandLine
