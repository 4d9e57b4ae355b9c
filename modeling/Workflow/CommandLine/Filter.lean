import Workflow.Decimal.Reader
import Workflow.Engine.Trace
import Workflow.Text.Blank
import Workflow.Text.Search

/-!
Which spans and remarks are kept. A filter is a list of directives such as `warn`, `engine=debug` or
`[span]=trace`. Of the directives whose target begins the target of a remark, the one with the longest
counts; a remark inside a span that a directive names is kept by that directive as well.
-/
namespace Workflow.CommandLine

/-- The least level that is kept; nothing is kept by `none`. -/
abbrev Threshold := Option Level

namespace Threshold

def keeps (t : Threshold) (l : Level) : Bool := t.any fun least => least.rank ≤ l.rank

/-- The one of two that keeps more. -/
def wider (s t : Threshold) : Threshold :=
  match s, t with
  | none, t => t
  | s, none => s
  | some a, some b => some (if a.rank ≤ b.rank then a else b)

def ofName? (name : String) : Option Threshold :=
  match name with
  | "off" => some none
  | "error" => some (some .error)
  | "warn" => some (some .warn)
  | "info" => some (some .info)
  | "debug" => some (some .debug)
  | "trace" => some (some .trace)
  | _ => none

/-- A level by its name in letters of either case or by its number. -/
def parse? (s : String) : Option Threshold :=
  match Decimal.unsigned? 6 s with
  | some n => some ([none, some .error, some .warn, some .info, some .debug, some .trace].getD n none)
  | none => ofName? (String.ofList (s.toList.map Char.toLower))

end Threshold

structure Directive where
  /-- The beginning of the targets that are meant; all are if there is none. -/
  target : Option String
  span : Option String
  /-- What a span has to tell of itself, and perhaps with which value. -/
  fields : List (String × Option String)
  threshold : Threshold
deriving DecidableEq, Repr

namespace Directive

/-- A level, or a target with all its levels. -/
def ofPlain (s : String) : Directive :=
  match Threshold.parse? s with
  | some t => ⟨none, none, [], t⟩
  | none => ⟨some s, none, [], some .trace⟩

def level? (s : String) : Option Threshold :=
  if s.isEmpty then some (some .trace) else Threshold.parse? s

/-- A name, perhaps with a value behind an equals sign. -/
def field? (s : String) : Option (String × Option String) :=
  if s.isEmpty then none
  else match Text.split s "=" with
    | name :: value :: _ => some (name, some value)
    | _ => some (s, none)

/-- What stands in brackets: the name of a span, and in braces what it tells. -/
def inBrackets? (s : String) : Option (Option String × List (String × Option String)) :=
  match Text.splitOnce? s "\x7b" with
  | none => some (some s, [])
  | some (name, rest) =>
    match Text.splitOnce? rest "\x7d" with
    | some (field, "") =>
      (field? field).map fun f => (if name.isEmpty then none else some name, [f])
    | _ => none

/-- What follows the brackets: nothing, or a level behind an equals sign. -/
def behindBrackets? (s : String) : Option Threshold :=
  if s.isEmpty then some (some .trace) else (Text.afterPrefix? s "=").bind level?

/-- A directive with brackets, of which the target stands in front. -/
def ofBrackets? (target : Option String) (s : String) : Option Directive := do
  let (inside, behind) ← Text.splitOnce? s "]"
  let (span, fields) ← inBrackets? inside
  return ⟨target, span, fields, ← behindBrackets? behind⟩

/-- Targets begin with a letter, a digit or one of three marks. -/
def isTargetStart (c : Char) : Bool := c.isAlphanum || 0x80 ≤ c.toNat || "-:_".toList.contains c

/-- A directive that starts at its first character. -/
def ofText? (s : String) : Option Directive :=
  let head := s.toList.takeWhile fun c => c != '=' && c != '['
  match s.toList.drop head.length with
  | '[' :: rest =>
    ofBrackets? (if head.isEmpty then none else some (String.ofList head)) (String.ofList rest)
  | '=' :: rest => (level? (String.ofList rest)).map (⟨some (String.ofList head), none, [], ·⟩)
  | _ => some (ofPlain s)

/-- Blanks in front belong to a plain directive, and no other may have any. -/
def parse? (s : String) : Option Directive :=
  match Text.trimList s.toList with
  | [] => none
  | c :: rest =>
    if c != '[' && !isTargetStart c then none
    else if s.toList.head?.any Text.isBlank then
      if (c :: rest).any (fun c => c == '=' || c == '[') then none else some (ofPlain s)
    else ofText? s

/-- Whether the directive depends on the spans that are open. -/
def isDynamic (d : Directive) : Bool := d.span.isSome || !d.fields.isEmpty

def hasValue (d : Directive) : Bool := d.fields.any (·.2.isSome)

/-- Whether the directive counts by its target alone. -/
def isStatic (d : Directive) : Bool := d.span.isNone && !d.hasValue

def meets (d : Directive) (target : String) : Bool := d.target.all (Text.hasPrefix target ·)

/-- How closely a directive is aimed. -/
def precision (d : Directive) : Nat × Nat :=
  (match d.target with
    | none => 0
    | some t => t.utf8ByteSize + 1, d.fields.length)

def isCloser (d e : Directive) : Bool :=
  e.precision.1 < d.precision.1 ||
    (e.precision.1 == d.precision.1 && e.precision.2 < d.precision.2)

/-- Whether a directive with brackets is about a span. -/
def names (d : Directive) (k : SpanKind) : Bool :=
  d.isDynamic && d.meets k.target && d.span.all (· == k.name) &&
    d.fields.all fun f => k.attributes.any (·.name == f.1)

/-- Whether what a span told has the values that the directive asks for. -/
def agrees (d : Directive) (told : List (Attribute × String)) : Bool :=
  d.fields.all fun f => f.2.all fun value => told.any fun t => t.1.name == f.1 && t.2 == value

end Directive

structure Filter where
  directives : List Directive
deriving DecidableEq, Repr

namespace Filter

/-- Errors only. -/
def least : Filter := ⟨[⟨none, none, [], some .error⟩]⟩

/-- Directives between commas; no directive at all leaves the errors. -/
def parse? (s : String) : Option Filter := do
  let directives ← ((Text.split s ",").filter (!·.isEmpty)).mapM Directive.parse?
  return if directives.isEmpty then least else ⟨directives⟩

/-- The directive that is aimed closest among those that `suits` allows; of two alike the later. -/
def closest? (f : Filter) (suits : Directive → Bool) : Option Directive :=
  (f.directives.filter fun d => d.isStatic && suits d).foldl (fun best d =>
    match best with
    | none => some d
    | some e => if e.isCloser d then some e else some d) none

/-- The most that any directive keeps. -/
def widest (f : Filter) : Threshold :=
  if f.directives.any Directive.hasValue then some .trace
  else f.directives.foldl (fun t d => t.wider d.threshold) none

/-- The threshold by targets alone. -/
def byTarget (f : Filter) (suits : Directive → Bool) : Threshold :=
  (f.closest? suits).bind Directive.threshold

/-- Whether directives with brackets are about a span. -/
def watches (f : Filter) (k : SpanKind) : Bool := f.directives.any (·.names k)

/-- What a span that told so much lets through inside it. -/
def within (f : Filter) (k : SpanKind) (told : List (Attribute × String)) : Threshold :=
  (f.directives.filter fun d => d.names k && d.agrees told).foldl
    (fun t d => t.wider d.threshold) none

/-- Whether a span is kept inside spans that let `scope` through. -/
def keepsSpan (f : Filter) (scope : Threshold) (k : SpanKind) : Bool :=
  f.widest.keeps k.level &&
    (f.watches k || scope.keeps k.level || (f.byTarget (·.meets k.target)).keeps k.level)

/-- The names of what a remark tells. -/
def told (r : Remark) : List String := "message" :: r.fields.map Prod.fst

def keepsRemark (f : Filter) (scope : Threshold) (r : Remark) : Bool :=
  scope.keeps r.level ||
    (f.byTarget fun d => d.meets r.target && d.fields.all fun x => (told r).contains x.1).keeps
      r.level

end Filter

/-- The filter when the environment names none. -/
def defaultFilter (quiet : Bool) (verbosity : Nat) : Filter :=
  let plain (target : Option String) (l : Level) : Directive := ⟨target, none, [], some l⟩
  match verbosity with
  | 0 => ⟨[plain none (if quiet then .error else .warn)]⟩
  | 1 => ⟨[plain none .info, plain (some "procflow") .debug]⟩
  | _ => ⟨[plain none .trace]⟩

/-- The filter of the environment if it can be read, or else the default. -/
def chooseFilter (environment : Option String) (quiet : Bool) (verbosity : Nat) : Filter :=
  (environment.bind Filter.parse?).getD (defaultFilter quiet verbosity)

example : (Filter.parse? "info,procflow=debug").map Filter.directives =
    some (defaultFilter false 1).directives := by decide +kernel

end Workflow.CommandLine
