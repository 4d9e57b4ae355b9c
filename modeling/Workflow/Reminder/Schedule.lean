import Workflow.Decimal.Reader
import Workflow.Reminder.Error

/-!
Cadences in their one canonical form, a cron line of six fields. Five fields get a zero second in
front; schedules in words such as `every 5 minutes` or `every weekday at 9:30` are written out.
-/
namespace Workflow.Reminder

/-- A number of 32 bits. -/
def word32? (s : String) : Option Nat := Decimal.unsigned? UInt32.size s

/-- An hour below 24 and a minute below 60 around a colon. -/
def hourMinute? (s : String) : Option (Nat × Nat) :=
  match Text.splitOnce? (Text.trim s) ":" with
  | none => none
  | some (h, m) =>
    match word32? (Text.trim h), word32? (Text.trim m) with
    | some h, some m => if h < 24 ∧ m < 60 then some (h, m) else none
    | _, _ => none

/-- A unit of time without any `s` at its end. -/
def unitName (s : String) : String :=
  String.ofList (s.toList.reverse.dropWhile (· = 's')).reverse

/-- The schedules that are whole phrases. -/
def phrase? : String → Option String
  | "every minute" | "minutely" => some "0 * * * * *"
  | "every hour" | "hourly" => some "0 0 * * * *"
  | "every day" | "daily" => some "0 0 0 * * *"
  | _ => none

def interval (input count unit : String) : Except ScheduleError String :=
  match word32? count with
  | none => .error (.malformed input)
  | some 0 => .error .zeroInterval
  | some n =>
    match unitName unit with
    | "minute" => .ok ("0 */" ++ toString n ++ " * * * *")
    | "hour" => .ok ("0 0 */" ++ toString n ++ " * * *")
    | _ => .error (.malformed input)

def daily (input time weekdays : String) : Except ScheduleError String :=
  match hourMinute? time with
  | some (h, m) => .ok ("0 " ++ toString m ++ " " ++ toString h ++ " * * " ++ weekdays)
  | none => .error (.malformed input)

/-- What follows `every `, in small letters. -/
def recurrence (input rest : String) : Except ScheduleError String :=
  match Text.afterPrefix? rest "day at ", Text.afterPrefix? rest "weekday at ", Text.words rest with
  | some time, _, _ => daily input time "*"
  | none, some time, _ => daily input time "MON-FRI"
  | none, none, [count, unit] => interval input count unit
  | none, none, _ => .error (.unrecognized (Text.trim input))

def inWords (input : String) : Except ScheduleError String :=
  let lower := Text.lower (Text.trim input)
  match phrase? lower with
  | some line => .ok line
  | none =>
    match Text.afterPrefix? lower "every " with
    | some rest => recurrence input rest
    | none => .error (.unrecognized (Text.trim input))

def normalize (input : String) : Except ScheduleError String :=
  let trimmed := Text.trim input
  let fields := (Text.words trimmed).length
  if Text.hasPrefix (Text.lower trimmed) "every" then inWords input
  else if fields = 5 then .ok ("0 " ++ trimmed)
  else if fields = 6 then .ok trimmed
  else inWords input

end Workflow.Reminder
