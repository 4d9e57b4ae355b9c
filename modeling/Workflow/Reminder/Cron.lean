import Workflow.Text.Blank
import Workflow.Text.Case
import Workflow.Text.Search

/-!
Cron lines of six fields: second, minute, hour, day, month and weekday. A field is `*` or a list of
numbers, ranges and steps. A day may also be the last one (`L`) or the working day nearest to a
number (`15W`), and a weekday the n-th or the last of its kind in the month (`5#2`, `5L`).
-/
namespace Workflow.Reminder

/-- What a number in a field stands for. -/
inductive Mark where
  | plain
  | nth (n : Nat)
  | last
  | nearest
deriving DecidableEq, Repr

namespace Mark

/-- The place of a mark in a field's features. -/
def bit : Mark → Nat
  | plain => 1
  | nth n => Nat.pow 2 n
  | last => 64
  | nearest => 128

end Mark

inductive FieldError where
  | invalidNumber
  | numberOutOfBounds
  | invalidRange
  | invalidRangeStart
  | invalidRangeEnd
  | rangeOutOfBounds
  | invalidStepSyntax
  | invalidStep
  | zeroStep
  | invalidStepRange
  | invalidStepRangeStart
  | invalidStepRangeEnd
  | invalidStepStart
  | stepRangeOutOfBounds
  | stepTooLarge
  | invalidNth
  | nthOutOfBounds
  | invalidNearestDay
  | nearestDayOutOfBounds
  | nthNotAllowed
  | lastNotAllowed
  | unsupported (bit features : Nat)
deriving DecidableEq, Repr

/-- A byte in binary. -/
def byteText (n : Nat) : String :=
  String.ofList ((List.range 8).reverse.map fun i => if n / Nat.pow 2 i % 2 = 1 then '1' else '0')

def FieldError.message : FieldError → String
  | invalidNumber => "Invalid number."
  | numberOutOfBounds => "Number out of bounds."
  | invalidRange => "Invalid range syntax."
  | invalidRangeStart => "Invalid start of range."
  | invalidRangeEnd => "Invalid end of range."
  | rangeOutOfBounds => "Range out of bounds."
  | invalidStepSyntax => "Invalid stepped range syntax."
  | invalidStep => "Invalid step."
  | zeroStep => "Step cannot be zero."
  | invalidStepRange => "Invalid range syntax in stepping."
  | invalidStepRangeStart => "Invalid range start."
  | invalidStepRangeEnd => "Invalid range end."
  | invalidStepStart => "Invalid start."
  | stepRangeOutOfBounds => "Range is out of bounds in stepping."
  | stepTooLarge => "Value exceeded max after stepping."
  | invalidNth => "Invalid nth specifier."
  | nthOutOfBounds => "Nth specifier out of bounds."
  | invalidNearestDay => "Invalid day for closest weekday."
  | nearestDayOutOfBounds => "Day for closest weekday out of bounds."
  | nthNotAllowed => "Nth specifier # not allowed in the current field."
  | lastNotAllowed => "L not allowed in the current field."
  | unsupported bit features =>
    "Bit 0b" ++ byteText bit ++ " is not supported by the current features 0b" ++
      byteText features ++ "."

inductive CronError where
  | fieldCount
  | illegalCharacter (c : Char) (part : String)
  | field (cause : FieldError)
deriving DecidableEq, Repr

def CronError.message : CronError → String
  | fieldCount => "Invalid pattern: Pattern must have between 5 and 7 fields."
  | illegalCharacter c part =>
    "Pattern contains illegal characters: CronPattern contains illegal character '" ++
      String.singleton c ++ "' in part '" ++ part ++ "'"
  | field cause => "Component error: " ++ cause.message

/-! ### Fields -/

/-- What a field may hold. -/
structure FieldKind where
  min : Nat
  max : Nat
  /-- The characters allowed beside digits, `*`, `/`, `,` and `-`. -/
  letters : List Char
  allowsNth : Bool
  allowsNearest : Bool

namespace FieldKind

def second : FieldKind := ⟨0, 59, [], false, false⟩
def minute : FieldKind := ⟨0, 59, [], false, false⟩
def hour : FieldKind := ⟨0, 23, [], false, false⟩
def day : FieldKind := ⟨1, 31, ['L', 'W', '?'], false, true⟩
def month : FieldKind := ⟨1, 12, [], false, false⟩
/-- Both 0 and 7 are Sunday. -/
def weekday : FieldKind := ⟨0, 7, ['#', 'L', '?'], true, false⟩

def features (k : FieldKind) : Nat :=
  65 + (if k.allowsNth then 62 else 0) + (if k.allowsNearest then 128 else 0)

def allows (k : FieldKind) : Mark → Bool
  | .plain | .last => true
  | .nth _ => k.allowsNth
  | .nearest => k.allowsNearest

def allowsChar (k : FieldKind) (c : Char) : Bool :=
  c.isDigit || ['*', '/', ',', '-'].contains c || k.letters.contains c

end FieldKind

structure Field where
  marks : List (Nat × Mark)
  /-- Whether `L` stands alone among the parts. -/
  last : Bool
  /-- Whether the field is `*` and nothing else. -/
  any : Bool
deriving DecidableEq, Repr

namespace Field

def has (f : Field) (n : Nat) (m : Mark) : Bool := f.marks.contains (n, m)

/-- The numbers from `0` to `max` that are set plainly, in order. -/
def values (f : Field) (max : Nat) : List Nat := (List.range (max + 1)).filter fun n => f.has n .plain

/-- Digits, as a number of at most sixteen bits. -/
def word? (cs : List Char) : Option Nat :=
  if cs.isEmpty || !cs.all Char.isDigit then none
  else
    let n := cs.foldl (fun n c => n * 10 + (c.toNat - '0'.toNat)) 0
    if n < UInt16.size then some n else none

def wordOr (e : FieldError) (cs : List Char) : Except FieldError Nat :=
  match word? cs with
  | some n => .ok n
  | none => .error e

/-- The mark behind a number: `L` at the end, or what follows `#`. -/
def markOf (cs : List Char) : Except FieldError Mark :=
  if cs.getLast? = some 'L' then .ok .last
  else match Text.pieces (· == '#') cs with
    | _ :: nth :: _ =>
      match word? nth with
      | none => .error .invalidNth
      | some n =>
        if 256 ≤ n then .error .invalidNth
        else if n = 0 ∨ 5 < n then .error .nthOutOfBounds else .ok (.nth n)
    | _ => .ok .plain

/-- What stands before `#`. -/
def unmarked (cs : List Char) : List Char := cs.takeWhile (· ≠ '#')

def setAll (k : FieldKind) (m : Mark) (ns : List Nat) : Except FieldError (List (Nat × Mark)) :=
  if k.allows m then .ok (ns.map fun n => (n, m)) else .error (.unsupported m.bit k.features)

/-- `first`, `first + step` and so on, up to `last`. -/
def stepped (first last step : Nat) : List Nat :=
  ((List.range (last + 1 - first)).filter fun i => i % step = 0).map (first + ·)

def readNumber (k : FieldKind) (cs : List Char) : Except FieldError (List (Nat × Mark)) := do
  let m ← markOf cs
  let n ← wordOr .invalidNumber (unmarked cs)
  if n < k.min ∨ k.max < n then .error .numberOutOfBounds else setAll k m [n]

def readRange (k : FieldKind) (cs : List Char) : Except FieldError (List (Nat × Mark)) :=
  match Text.pieces (· == '-') cs with
  | [a, b] => do
    let m ← markOf b
    let first ← wordOr .invalidRangeStart a
    let last ← wordOr .invalidRangeEnd (unmarked b)
    if last < first ∨ first < k.min ∨ k.max < last then .error .rangeOutOfBounds
    else setAll k m (stepped first last 1)
  | _ => .error .invalidRange

def readStepBounds (k : FieldKind) (cs : List Char) : Except FieldError (Nat × Nat) :=
  if cs = ['*'] then .ok (k.min, k.max)
  else if cs.contains '-' then
    match Text.pieces (· == '-') cs with
    | [a, b] => do
      let first ← wordOr .invalidStepRangeStart a
      let last ← wordOr .invalidStepRangeEnd b
      .ok (first, last)
    | _ => .error .invalidStepRange
  else do
    let first ← wordOr .invalidStepStart cs
    .ok (first, k.max)

def readStep (k : FieldKind) (cs : List Char) : Except FieldError (List (Nat × Mark)) :=
  match Text.pieces (· == '/') cs with
  | [range, step] => do
    let m ← markOf step
    let step ← wordOr .invalidStep (unmarked step)
    if step = 0 then .error .zeroStep
    else
      let (first, last) ← readStepBounds k range
      if first < k.min ∨ k.max < last ∨ last < first then .error .stepRangeOutOfBounds
      else
        let ns := stepped first last step
        let marks ← setAll k m ns
        if UInt16.size ≤ (ns.getLast?.getD first) + step then .error .stepTooLarge else .ok marks
  | _ => .error .invalidStepSyntax

def readNearest (k : FieldKind) (cs : List Char) : Except FieldError (List (Nat × Mark)) := do
  let n ← wordOr .invalidNearestDay (cs.takeWhile (· ≠ 'W'))
  if n < k.min ∨ k.max < n then .error .nearestDayOutOfBounds else setAll k .nearest [n]

/-- A number and what follows it; `5L` is short for `5#L`. -/
def readMarked (k : FieldKind) (cs : List Char) : Except FieldError (List (Nat × Mark)) :=
  let cs := if cs.getLast? = some 'L' ∧ !cs.contains '#' then
      cs.flatMap fun c => if c = 'L' then ['#', 'L'] else [c]
    else cs
  if cs.contains '#' ∧ !k.allowsNth then .error .nthNotAllowed
  else if cs.contains 'L' ∧ !k.allowsNth then .error .lastNotAllowed
  else readNumber k cs

/-- The marks of one part; none for `L` alone. -/
def readPart (k : FieldKind) (cs : List Char) : Except FieldError (List (Nat × Mark)) :=
  if cs.contains '/' then readStep k cs
  else if cs.contains '-' then readRange k cs
  else if cs.contains 'W' then readNearest k cs
  else if cs = ['L'] then .ok []
  else readMarked k cs

def readParts (k : FieldKind) : List (List Char) → Except FieldError (List (Nat × Mark))
  | [] => .ok []
  | p :: ps => do
    let here ← readPart k p
    let rest ← readParts k ps
    .ok (here ++ rest)

def read (k : FieldKind) (text : List Char) : Except FieldError Field :=
  if text = ['*'] then
    .ok ⟨(stepped k.min k.max 1).map fun n => (n, .plain), false, true⟩
  else
    let parts := (Text.pieces (· == ',') text).filter fun p => !p.isEmpty
    (readParts k parts).map fun marks => ⟨marks, parts.contains ['L'], false⟩

/-- Sunday may be written 7, save where the last one is meant. -/
def foldSunday (f : Field) : Field :=
  { f with marks := f.marks.map fun p => if p.1 = 7 ∧ p.2 ≠ .last then (0, p.2) else p }

end Field

/-! ### Lines -/

structure Cron where
  seconds : Field
  minutes : Field
  hours : Field
  days : Field
  months : Field
  weekdays : Field
  /-- Whether day and weekday must both fit where neither is `*`. -/
  strict : Bool
deriving DecidableEq, Repr

namespace Cron

/-- The names of weekdays and months, in the order in which their numbers replace them. -/
def names : List (String × String) :=
  [("-SUN", "-7"), ("SUN", "0"), ("MON", "1"), ("TUE", "2"), ("WED", "3"), ("THU", "4"),
    ("FRI", "5"), ("SAT", "6"), ("JAN", "1"), ("FEB", "2"), ("MAR", "3"), ("APR", "4"),
    ("MAY", "5"), ("JUN", "6"), ("JUL", "7"), ("AUG", "8"), ("SEP", "9"), ("OCT", "10"),
    ("NOV", "11"), ("DEC", "12")]

def replaceNames (text : String) : String :=
  names.foldl (fun s p => p.2.intercalate (Text.split s p.1)) text

def starred (text : String) : String :=
  String.ofList (text.toList.map fun c => if c = '?' then '*' else c)

def checkChars (k : FieldKind) (part : String) : Except CronError Unit :=
  match part.toList.find? fun c => !k.allowsChar c with
  | some c => .error (.illegalCharacter c part)
  | none => .ok ()

def field (k : FieldKind) (part : String) : Except CronError Field :=
  (Field.read k part.toList).mapError .field

def ofFields (second minute hour day month weekday : String) : Except CronError Cron := do
  let day := starred day
  let strict := Text.hasPrefix weekday "+"
  let weekday := starred ((Text.afterPrefix? weekday "+").getD weekday)
  checkChars .second second
  checkChars .minute minute
  checkChars .hour hour
  checkChars .day day
  checkChars .month month
  checkChars .weekday weekday
  let seconds ← field .second second
  let minutes ← field .minute minute
  let hours ← field .hour hour
  let days ← field .day day
  let months ← field .month month
  let weekdays ← field .weekday weekday
  .ok ⟨seconds, minutes, hours, days, months, weekdays.foldSunday, strict⟩

def parse (text : String) : Except CronError Cron :=
  match Text.words (replaceNames (Text.upper text)) with
  | [second, minute, hour, day, month, weekday] => ofFields second minute hour day month weekday
  | _ => .error .fieldCount

end Cron

end Workflow.Reminder
