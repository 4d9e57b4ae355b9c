import Workflow.Reminder.Cron
import Workflow.Time.Instant

/-!
When a cron line next occurs. The search goes forward month by month, from the first day of the year
1 to that of the year 5000; of the year 5000 itself only what lies ahead on the day it begins with
is found.
-/
namespace Workflow.Reminder.Cron

open Time

/-- The day of the month that a number stands for as the nearest working day: on a weekend the day
before or after it, but never one of another month. -/
def nearestWorkday (year : Int) (month n : Nat) : Option Nat :=
  let last := daysInMonth year month
  if last < n then none
  else match Date.weekday ⟨year, month, n⟩ with
    | 6 => some (if n = 1 then 3 else n - 1)
    | 7 => some (if n = last then n - 2 else n + 1)
    | _ => some n

def dayFits (c : Cron) (d : Date) : Bool :=
  c.days.has d.day .plain || (c.days.last && d.day == daysInMonth d.year d.month) ||
    c.days.marks.any fun p => p.2 == .nearest && nearestWorkday d.year d.month p.1 == some d.day

/-- Sunday is 0 here. -/
def weekdayFits (c : Cron) (d : Date) : Bool :=
  let w := d.weekday % 7
  c.weekdays.has w .plain || c.weekdays.has w (.nth ((d.day - 1) / 7 + 1)) ||
    (c.weekdays.has w .last && daysInMonth d.year d.month < d.day + 7)

/-- Whether day and weekday fit; the month is not looked at. -/
def dateFits (c : Cron) (d : Date) : Bool :=
  if c.weekdays.any then c.dayFits d
  else if c.days.any then c.weekdayFits d
  else if c.strict then c.dayFits d && c.weekdayFits d
  else c.dayFits d || c.weekdayFits d

def monthFits (c : Cron) (month : Nat) : Bool := c.months.has month .plain

def timeFits (c : Cron) (t : TimeOfDay) : Bool :=
  c.hours.has t.hour .plain && c.minutes.has t.minute .plain && c.seconds.has t.second .plain

/-- Whether an instant, its fraction of a second aside, is one of the line's. -/
def fits (c : Cron) (t : Instant) : Bool :=
  c.monthFits t.date.month && c.dateFits t.date && c.timeFits t.timeOfDay

/-- The first second of the day, from a given one on, that the line names. -/
def secondFrom? (c : Cron) (seconds : Nat) : Option Nat :=
  let hour := seconds / 3600
  let minute := seconds / 60 % 60
  let second := seconds % 60
  (c.hours.values 23).findSome? fun h =>
    if h < hour then none
    else (c.minutes.values 59).findSome? fun m =>
      if h = hour ∧ m < minute then none
      else (c.seconds.values 59).findSome? fun s =>
        if h = hour ∧ m = minute ∧ s < second then none else some (h * 3600 + m * 60 + s)

/-- The first fitting day of a month, from a given one on. -/
def dayFrom? (c : Cron) (year : Int) (month day : Nat) : Option Nat :=
  ((List.range (daysInMonth year month + 1)).drop day).find? fun n => c.dateFits ⟨year, month, n⟩

/-- The same with hour, minute and second found one after another, none of them carried over to
the next larger one. -/
def secondWithin? (c : Cron) (t : TimeOfDay) : Option Nat := do
  let h ← (c.hours.values 23).find? (t.hour ≤ ·)
  let m ← (c.minutes.values 59).find? ((if h = t.hour then t.minute else 0) ≤ ·)
  let s ← (c.seconds.values 59).find? ((if h = t.hour ∧ m = t.minute then t.second else 0) ≤ ·)
  some (h * 3600 + m * 60 + s)

/-- The years within which the search moves. -/
def firstYear : Int := 1
def lastYear : Int := 5000

/-- The first fitting date from a day of a month on, over at most so many further months and then
the day after them, and whether every month on the way fitted. -/
def dateFrom? (c : Cron) (year : Int) (month day : Nat) (allFit : Bool) :
    (months : Nat) → Option (Date × Bool)
  | 0 =>
    if c.monthFits month && c.dateFits ⟨year, month, day⟩ then some (⟨year, month, day⟩, allFit)
    else none
  | months + 1 =>
    let fits := c.monthFits month
    match if fits then c.dayFrom? year month day else none with
    | some n => some (⟨year, month, n⟩, allFit && fits)
    | none =>
      if month = 12 then dateFrom? c (year + 1) 1 1 (allFit && fits) months
      else dateFrom? c year (month + 1) 1 (allFit && fits) months

/-- How many months there are from one until the last year begins. -/
def monthsLeft (year : Int) (month : Nat) : Nat := ((lastYear - year) * 12 + 1 - month).toNat

/-- Where a search starts that would start too early. -/
def dawn : Instant := .ofDate ⟨firstYear, 1, 1⟩ ⟨0, 0⟩

/-- The first occurrence from an instant on. It keeps the fraction of a second unless a month that
does not fit is passed over. -/
def from? (c : Cron) (t : Instant) : Option Instant :=
  let t := if t.date.year < firstYear then dawn else t
  let d := t.date
  let fitsToday := c.monthFits d.month && c.dateFits d
  if lastYear ≤ d.year then
    if d.year = lastYear && fitsToday then
      (c.secondWithin? t.timeOfDay).map fun s => .ofDate d ⟨s, t.nanos⟩
    else none
  else
    match if fitsToday then c.secondFrom? t.timeOfDay.seconds else none with
    | some s => some (.ofDate d ⟨s, t.nanos⟩)
    | none =>
      match c.secondFrom? 0 with
      | none => none
      | some s =>
        (c.dateFrom? d.year d.month (d.day + 1) true (monthsLeft d.year d.month)).map fun p =>
          .ofDate p.1 ⟨s, if p.2 then t.nanos else 0⟩

/-- The first occurrence later than an instant by a second or more. -/
def after? (c : Cron) (t : Instant) : Option Instant := c.from? (t.shift (Span.ofSeconds 1))

/-- The occurrence listed behind an occurrence: the first one that is later by two seconds or
more. -/
def following? (c : Cron) (t : Instant) : Option Instant := c.after? (t.shift (Span.ofSeconds 1))

end Workflow.Reminder.Cron
