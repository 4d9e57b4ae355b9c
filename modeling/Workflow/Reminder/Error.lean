import Workflow.Reminder.Cron

/-!
Why a reminder is refused.
-/
namespace Workflow

inductive ScheduleError where
  /-- In words, but without a reading. -/
  | malformed (text : String)
  | zeroInterval
  | unrecognized (text : String)
  | cron (text : String) (cause : Reminder.CronError)
deriving DecidableEq, Repr

def ScheduleError.message : ScheduleError → String
  | malformed text => text
  | zeroInterval => "interval must be > 0"
  | unrecognized text => s!"unrecognized schedule format: '{text}'"
  | cron text cause => s!"'{text}': {cause.message}"

inductive ReminderError where
  | schedule (cause : ScheduleError)
  | weekday (n : UInt8)
deriving DecidableEq, Repr

def ReminderError.message : ReminderError → String
  | schedule cause => s!"invalid schedule: {cause.message}"
  | weekday n => s!"invalid weekday {n.toNat}: expected 1 (Monday) through 7 (Sunday)"

end Workflow
