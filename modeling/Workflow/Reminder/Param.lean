import Workflow.Data.Document
import Workflow.Text.Search
import Workflow.Time.Text

/-!
What a reminder is given: its cadence, the weekdays it keeps to and the hours of the day.
-/
namespace Workflow

open Time (TimeOfDay)

/-- A daily window with both ends in it. One that ends before it starts runs over midnight. -/
structure WorkTime where
  start : TimeOfDay
  stop : TimeOfDay
deriving DecidableEq, Repr

namespace WorkTime

def contains (w : WorkTime) (t : TimeOfDay) : Bool :=
  if w.start ≤ w.stop then w.start ≤ t && t ≤ w.stop else w.start ≤ t || t ≤ w.stop

def text (w : WorkTime) : String := w.start.hourMinute ++ "-" ++ w.stop.hourMinute

inductive ParseError where
  | noDash (text : String)
  | badTime (text : String) (cause : Time.ReadError)
deriving DecidableEq, Repr

def ParseError.message : ParseError → String
  | noDash text => s!"invalid work time '{text}': expected HH:MM-HH:MM"
  | badTime text cause => s!"invalid work time '{text}': {cause.message}"

/-- Two times of day around the first dash. -/
def parse (s : String) : Except ParseError WorkTime :=
  match Text.splitOnce? s "-" with
  | none => .error (.noDash s)
  | some (start, stop) => do
    let start ← (TimeOfDay.parseHourMinute (Text.trim start)).mapError (.badTime s)
    let stop ← (TimeOfDay.parseHourMinute (Text.trim stop)).mapError (.badTime s)
    .ok ⟨start, stop⟩

def toValue (w : WorkTime) : Value := .string w.text

def ofDocument? (d : Document) : Option WorkTime := d.text?.bind fun s => (parse s).toOption

end WorkTime

structure ReminderParam where
  /-- A cron line or a schedule in words. -/
  cadence : String
  /-- Monday is 1; an empty list allows every day. -/
  weekdays : List UInt8
  workTime : Option WorkTime
deriving DecidableEq, Repr

namespace ReminderParam

def allowsWeekday (p : ReminderParam) (weekday : Nat) : Bool :=
  p.weekdays.isEmpty || p.weekdays.any fun d => d.toNat == weekday

def allowsTime (p : ReminderParam) (t : TimeOfDay) : Bool :=
  match p.workTime with
  | none => true
  | some w => w.contains t

def members : List (List String) := [["cron"], ["weeks"], ["work_time"]]

def toValue (p : ReminderParam) : Value :=
  .object ([("cron", .string p.cadence)] ++
    (if p.weekdays.isEmpty then []
      else [("weeks", .array (p.weekdays.map fun d => .number (.int d.toNat)))]) ++
    (match p.workTime with
      | none => []
      | some w => [("work_time", w.toValue)]))

def weekday? (d : Document) : Option UInt8 := (d.natural? 255).map UInt8.ofNat

def ofDocument? (d : Document) : Option ReminderParam :=
  match d.members? members with
  | some [cadence, weekdays, workTime] => do
    let cadence ← Record.required Document.text? cadence
    let weekdays ← Record.defaulting [] (Document.list? weekday?) weekdays
    let workTime ← Document.optional WorkTime.ofDocument? workTime
    some ⟨cadence, weekdays, workTime⟩
  | _ => none

end ReminderParam

end Workflow
