import Workflow.Time.Calendar

/-!
Instants in UTC, and the time of day. A leap second is held as a further second of nanoseconds
behind the second before it.
-/
namespace Workflow.Time

/-- `nanos` reaches a full second only inside a leap second. -/
structure TimeOfDay where
  seconds : Nat
  nanos : Nat
deriving DecidableEq, Repr, Inhabited

namespace TimeOfDay

def ofHms (hour minute second : Nat) : TimeOfDay := ⟨hour * 3600 + minute * 60 + second, 0⟩

def hour (t : TimeOfDay) : Nat := t.seconds / 3600
def minute (t : TimeOfDay) : Nat := t.seconds / 60 % 60
def second (t : TimeOfDay) : Nat := t.seconds % 60

def le (s t : TimeOfDay) : Bool :=
  s.seconds < t.seconds || (s.seconds == t.seconds && s.nanos ≤ t.nanos)

instance : LE TimeOfDay := ⟨fun s t => s.le t = true⟩

instance (s t : TimeOfDay) : Decidable (s ≤ t) := inferInstanceAs (Decidable (_ = true))

end TimeOfDay

/-- Seconds count from the start of 1970. -/
structure Instant where
  seconds : Int
  nanos : Nat
deriving DecidableEq, Repr, Inhabited

def secondsPerDay : Int := 86400

def billion : Int := 1000000000

namespace Instant

def days (t : Instant) : Int := Int.fdiv t.seconds secondsPerDay

def date (t : Instant) : Date := Date.ofDays t.days

def timeOfDay (t : Instant) : TimeOfDay := ⟨(Int.fmod t.seconds secondsPerDay).toNat, t.nanos⟩

def weekday (t : Instant) : Nat := Date.weekdayOfDays t.days

def ofDate (d : Date) (t : TimeOfDay) : Instant := ⟨d.toDays * secondsPerDay + t.seconds, t.nanos⟩

def le (s t : Instant) : Bool :=
  s.seconds < t.seconds || (s.seconds == t.seconds && s.nanos ≤ t.nanos)

instance : LE Instant := ⟨fun s t => s.le t = true⟩

instance (s t : Instant) : Decidable (s ≤ t) := inferInstanceAs (Decidable (_ = true))

instance : LT Instant := ⟨fun s t => ¬ t ≤ s⟩

instance (s t : Instant) : Decidable (s < t) := inferInstanceAs (Decidable (¬ _))

/-- The years that an instant can lie in. -/
def minYear : Int := -262143
def maxYear : Int := 262142

def inRange (t : Instant) : Bool :=
  (⟨minYear, 1, 1⟩ : Date).toDays ≤ t.days && t.days ≤ (⟨maxYear, 12, 31⟩ : Date).toDays

/-- Moves by nanoseconds, counting a leap second as none once it is left. -/
def shift (t : Instant) (delta : Int) : Instant :=
  let whole := Int.tdiv delta billion
  let part := Int.tmod delta billion
  let nanos : Int := t.nanos
  let settle (seconds nanos : Int) : Instant :=
    if nanos < 0 then ⟨seconds - 1, (nanos + billion).toNat⟩
    else if billion ≤ nanos then ⟨seconds + 1, (nanos - billion).toNat⟩
    else ⟨seconds, nanos.toNat⟩
  if billion ≤ nanos then
    if 0 < whole ∨ (0 < part ∧ 2 * billion ≤ nanos + part) then
      settle (t.seconds + whole) (nanos - billion + part)
    else if whole < 0 then settle (t.seconds + 1 + whole) (nanos - billion + part)
    else ⟨t.seconds, (nanos + part).toNat⟩
  else settle (t.seconds + whole) (nanos + part)

/-- The shifted instant, unless it leaves the calendar. -/
def shift? (t : Instant) (delta : Int) : Option Instant :=
  let u := t.shift delta
  if u.inRange then some u else none

end Instant

/-- A length of time in nanoseconds. -/
abbrev Span := Int

namespace Span

def ofSeconds (n : Int) : Span := n * billion

def ofMilliseconds (n : Int) : Span := n * 1000000

/-- The greatest whole number of seconds in a span. -/
def maxSeconds : Nat := 9223372036854775

/-- Seconds as a span, if it can hold them. -/
def ofSeconds? (n : Nat) : Option Span := if n ≤ maxSeconds then some (ofSeconds n) else none

end Span

end Workflow.Time
