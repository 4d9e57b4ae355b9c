import Workflow.Time.Instant
import Workflow.Text.Blank

/-!
Instants and times of day as text, after RFC 3339. Reading comes in two forms: `parseStrict` wants
exactly the form of the standard, and `parseRelaxed` lets white space stand between the parts, numbers
be shorter and years carry a sign.
-/
namespace Workflow.Time

/-- Why a text does not name a time. -/
inductive ReadError where
  | outOfRange
  | invalid
  | tooShort
  | tooLong
deriving DecidableEq, Repr

def ReadError.message : ReadError → String
  | outOfRange => "input is out of range"
  | invalid => "input contains invalid characters"
  | tooShort => "premature end of input"
  | tooLong => "trailing input"

/-! ### Writing -/

def padded (width n : Nat) : List Char :=
  let ds := Nat.toDigits 10 n
  List.replicate (width - ds.length) '0' ++ ds

def two (n : Nat) : List Char := padded 2 n

/-- Four digits, with a sign before years of more or fewer than four. -/
def yearText (y : Int) : List Char :=
  if 0 ≤ y ∧ y ≤ 9999 then padded 4 y.toNat
  else (if y < 0 then '-' else '+') :: padded 4 y.natAbs

/-- No fraction, or one of three, six or nine digits, whichever is exact first. -/
def fractionText (nanos : Nat) : List Char :=
  if nanos = 0 then []
  else if nanos % 1000000 = 0 then '.' :: padded 3 (nanos / 1000000)
  else if nanos % 1000 = 0 then '.' :: padded 6 (nanos / 1000)
  else '.' :: padded 9 nanos

namespace Instant

/-- In UTC, closed by the given zone. -/
def textWith (zone : String) (t : Instant) : String :=
  let d := t.date
  let leap := if billion ≤ t.nanos then 1 else 0
  let time := t.timeOfDay
  let nanos := if leap = 1 then t.nanos - 1000000000 else t.nanos
  String.ofList (yearText d.year ++ ['-'] ++ two d.month ++ ['-'] ++ two d.day ++ ['T'] ++
    two time.hour ++ [':'] ++ two time.minute ++ [':'] ++ two (time.second + leap) ++
    fractionText nanos) ++ zone

def text (t : Instant) : String := t.textWith "Z"

def offsetText (t : Instant) : String := t.textWith "+00:00"

/-- Year, month, day, hour and minute without anything between them. -/
def minuteStamp (t : Instant) : String :=
  let d := t.date
  let time := t.timeOfDay
  String.ofList (yearText d.year ++ two d.month ++ two d.day ++ two time.hour ++ two time.minute)

end Instant

def TimeOfDay.hourMinute (t : TimeOfDay) : String :=
  String.ofList (two t.hour ++ [':'] ++ two t.minute)

/-! ### Reading -/

/-- What is read, and the text after it. -/
abbrev Reader (α : Type) := List Char → Except ReadError (α × List Char)

def digitsValue (ds : List Char) : Nat := ds.foldl (fun n c => n * 10 + (c.toNat - '0'.toNat)) 0

/-- A number of at least `min` digits, of which at most `max` are taken. -/
def number (min : Nat) (max : Option Nat) : Reader Nat := fun cs =>
  if cs.length < min then .error .tooShort
  else
    let all := cs.takeWhile Char.isDigit
    let ds := match max with
      | some m => all.take m
      | none => all
    if ds.length < min then .error .invalid
    else .ok (digitsValue ds, cs.drop ds.length)

def literal (c : Char) : Reader Unit
  | [] => .error .tooShort
  | d :: cs => if c = d then .ok ((), cs) else .error .invalid

def skipBlank (cs : List Char) : List Char := cs.dropWhile Text.isBlank

def checked (lo hi n : Nat) : Except ReadError Nat :=
  if lo ≤ n ∧ n ≤ hi then .ok n else .error .outOfRange

/-- Digits after a point, counted as nanoseconds; the tenth and later ones are dropped. -/
def fraction : Reader Nat := fun cs => do
  let (n, rest) ← number 1 (some 9) cs
  let taken := cs.length - rest.length
  .ok (n * Nat.pow 10 (9 - taken), rest.dropWhile Char.isDigit)

def optionalFraction : Reader Nat
  | '.' :: cs => fraction cs
  | cs => .ok (0, cs)

/-- The distance from UTC in seconds, `between` skipping what stands between hours and minutes. -/
def zone (between : List Char → Except ReadError (List Char)) : Reader Int
  | 'Z' :: cs | 'z' :: cs => .ok (0, cs)
  | [] => .error .tooShort
  | c :: cs => do
    let negative ← if c = '+' then .ok false
      else if c = '-' ∨ c = '−' then .ok true else .error .invalid
    let (hours, cs) ← match cs with
      | a :: b :: rest =>
        if a.isDigit ∧ b.isDigit then .ok (digitsValue [a, b], rest) else .error .invalid
      | _ => .error .tooShort
    let cs ← between cs
    let (minutes, cs) ← match cs with
      | a :: b :: rest =>
        if a.isDigit ∧ b.isDigit then
          if a ≤ '5' then .ok (digitsValue [a, b], rest) else .error .outOfRange
        else .error .invalid
      | _ => .error .tooShort
    let seconds : Int := (hours * 3600 + minutes * 60 : Nat)
    .ok (if negative then -seconds else seconds, cs)

/-- The instant of a local date and time at a distance from UTC. -/
def assemble (year : Int) (month day hour minute second nanos : Nat) (offset : Int) :
    Except ReadError Instant := do
  let month ← checked 1 12 month
  let day ← checked 1 31 day
  let hour ← checked 0 23 hour
  let minute ← checked 0 59 minute
  let second ← checked 0 60 second
  match Date.ofYmd? year month day with
  | none => .error .outOfRange
  | some d =>
    if offset ≤ -secondsPerDay ∨ secondsPerDay ≤ offset then .error .outOfRange
    else
      let leap := if second = 60 then 1 else 0
      let here := Instant.ofDate d ⟨hour * 3600 + minute * 60 + second - leap,
        nanos + leap * 1000000000⟩
      let t : Instant := ⟨here.seconds - offset, here.nanos⟩
      if here.inRange && t.inRange then .ok t else .error .outOfRange

def strictReader : Reader Instant := fun cs => do
  let (year, cs) ← number 4 (some 4) cs
  let (_, cs) ← literal '-' cs
  let (month, cs) ← number 2 (some 2) cs
  let month ← checked 1 12 month
  let (_, cs) ← literal '-' cs
  let (day, cs) ← number 2 (some 2) cs
  let day ← checked 1 31 day
  let cs ← match cs with
    | c :: cs => if c = 'T' ∨ c = 't' ∨ c = ' ' then .ok cs else .error .invalid
    | [] => .error .tooShort
  let (hour, cs) ← number 2 (some 2) cs
  let (_, cs) ← literal ':' cs
  let (minute, cs) ← number 2 (some 2) cs
  let (_, cs) ← literal ':' cs
  let (second, cs) ← number 2 (some 2) cs
  let (nanos, cs) ← optionalFraction cs
  let (offset, cs) ← zone (fun cs => (literal ':' cs).map Prod.snd) cs
  let t ← assemble year month day hour minute second nanos offset
  .ok (t, cs)

/-- A year, which goes on past four digits only behind a sign. -/
def signedYear : Reader Int := fun cs =>
  match skipBlank cs with
  | '-' :: cs => (number 1 none cs).map fun p => (-(p.1 : Int), p.2)
  | '+' :: cs => (number 1 none cs).map fun p => ((p.1 : Int), p.2)
  | cs => (number 1 (some 4) cs).map fun p => ((p.1 : Int), p.2)

/-- At most two digits behind white space. -/
def pair : Reader Nat := fun cs => number 1 (some 2) (skipBlank cs)

def relaxedReader : Reader Instant := fun cs => do
  let (year, cs) ← signedYear cs
  let (_, cs) ← literal '-' (skipBlank cs)
  let (month, cs) ← pair cs
  let (_, cs) ← literal '-' (skipBlank cs)
  let (day, cs) ← pair cs
  let cs ← match cs with
    | c :: cs => if c = 'T' ∨ c = 't' ∨ c = ' ' then .ok cs else .error .invalid
    | [] => .error .tooShort
  let (hour, cs) ← pair cs
  let (_, cs) ← literal ':' (skipBlank cs)
  let (minute, cs) ← pair cs
  let (_, cs) ← literal ':' (skipBlank cs)
  let (second, cs) ← pair cs
  let (nanos, cs) ← optionalFraction cs
  let cs := skipBlank cs
  let (offset, cs) ← match cs with
    | u :: t :: c :: rest =>
      if u.toLower = 'u' ∧ t.toLower = 't' ∧ c.toLower = 'c' then .ok ((0 : Int), rest)
      else zone (fun cs => .ok (cs.dropWhile fun c => c = ':' ∨ Text.isBlank c)) cs
    | _ => zone (fun cs => .ok (cs.dropWhile fun c => c = ':' ∨ Text.isBlank c)) cs
  let t ← assemble year month day hour minute second nanos offset
  .ok (t, cs)

namespace Instant

def parseStrict (s : String) : Except ReadError Instant := do
  let (t, rest) ← strictReader s.toList
  if rest.isEmpty then .ok t else .error .tooLong

def parseRelaxed (s : String) : Except ReadError Instant := do
  let (t, rest) ← relaxedReader s.toList
  if (skipBlank rest).isEmpty then .ok t else .error .tooLong

end Instant

/-- Hours and minutes: one or two digits each, around a colon. -/
def TimeOfDay.parseHourMinute (s : String) : Except ReadError TimeOfDay := do
  let (hour, cs) ← pair s.toList
  let hour ← checked 0 23 hour
  let (_, cs) ← literal ':' cs
  let (minute, cs) ← pair cs
  let minute ← checked 0 59 minute
  if cs.isEmpty then .ok (.ofHms hour minute 0) else .error .tooLong

/-- Hours, minutes, seconds and perhaps a fraction. -/
def TimeOfDay.parse (s : String) : Except ReadError TimeOfDay := do
  let (hour, cs) ← pair s.toList
  let hour ← checked 0 23 hour
  let (_, cs) ← literal ':' (skipBlank cs)
  let (minute, cs) ← pair cs
  let minute ← checked 0 59 minute
  let (_, cs) ← literal ':' (skipBlank cs)
  let (second, cs) ← pair cs
  let second ← checked 0 60 second
  let (nanos, cs) ← optionalFraction cs
  let leap := if second = 60 then 1 else 0
  if (skipBlank cs).isEmpty then
    .ok ⟨hour * 3600 + minute * 60 + second - leap, nanos + leap * 1000000000⟩
  else .error .tooLong

end Workflow.Time
