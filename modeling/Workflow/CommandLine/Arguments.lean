import Workflow.CommandLine.Scan
import Workflow.Decimal.Reader

/-!
What a command line asks for. Some options may stand in front of the command as well as behind it;
the ones behind it come first, and the environment stands in for a data directory that neither names.
-/
namespace Workflow.CommandLine

/-- The shells that can complete command lines. -/
inductive Shell where
  | bash
  | elvish
  | fish
  | powershell
  | zsh
deriving DecidableEq, Repr

namespace Shell

def text : Shell → String
  | bash => "bash"
  | elvish => "elvish"
  | fish => "fish"
  | powershell => "powershell"
  | zsh => "zsh"

def ofText? (s : String) : Option Shell :=
  [bash, elvish, fish, powershell, zsh].find? fun shell => shell.text == s

end Shell

/-- What is asked of a reminder. -/
structure RemindRequest where
  cadence : String
  weekdays : List UInt8
  workTime : Option String
  /-- The moment to look at, or nothing for the present one. -/
  moment : Option String
  /-- In seconds. -/
  tolerance : Option UInt64
deriving DecidableEq, Repr

structure RunRequest where
  file : String
  vars : Option String
  /-- Nodes with what to hand in at them, as they are written. -/
  completions : List String
deriving DecidableEq, Repr

inductive Command where
  | validate (path : String)
  | run (r : RunRequest)
  | remind (r : RemindRequest)
  | completions (shell : Shell)
deriving DecidableEq, Repr

structure Invocation where
  json : Bool
  quiet : Bool
  verbosity : Nat
  dataDirectory : Option String
  /-- Whether to write out the spans of the run. -/
  exporting : Bool
  command : Command
deriving DecidableEq, Repr

def sharedOptions : List OptionSpec :=
  [⟨"json", none, .flag⟩, ⟨"quiet", none, .flag⟩, ⟨"verbose", some 'v', .counted⟩,
    ⟨"data-dir", none, .single⟩, ⟨"otel", none, .flag⟩]

def outer : Grammar := ⟨sharedOptions, ["validate", "run", "remind", "completions", "help"], 0⟩

/-- The level of a command with options of its own and one operand. -/
def inner (options : List OptionSpec) : Grammar := ⟨sharedOptions ++ options, [], 1⟩

def validateGrammar : Grammar := inner []

def runGrammar : Grammar := inner [⟨"vars", none, .single⟩, ⟨"complete", none, .repeated⟩]

def remindGrammar : Grammar :=
  inner [⟨"weeks", none, .repeated⟩, ⟨"work-time", none, .single⟩, ⟨"at", none, .single⟩,
    ⟨"tolerance", none, .single⟩]

/-! ### Values -/

/-- A path is never empty. -/
def path (s : String) : Except Stop String := if s.isEmpty then .error .misuse else .ok s

/-- A weekday as it is written; minus zero is zero. -/
def weekday (s : String) : Except Stop UInt8 :=
  match Decimal.unsigned? 256 s, (Text.afterPrefix? s "-").bind (Decimal.natural? ·.toList) with
  | some n, _ => .ok (UInt8.ofNat n)
  | none, some 0 => .ok 0
  | none, _ => .error .misuse

def seconds (s : String) : Except Stop UInt64 :=
  match Decimal.unsigned? UInt64.size s with
  | some n => .ok (UInt64.ofNat n)
  | none => .error .misuse

/-- The data directory of a level: the one that is given, or else that of the environment. -/
def directory (w : Words) (environment : Option String) : Except Stop (Option String) :=
  (w.value? "data-dir").or environment |>.mapM path

def operand (w : Words) : Except Stop String :=
  match w.operands with
  | [s] => .ok s
  | _ => .error .misuse

/-! ### Commands -/

def validateCommand (w : Words) : Except Stop Command := do
  return .validate (← path (← operand w))

def runCommand (w : Words) : Except Stop Command := do
  return .run ⟨← path (← operand w), w.value? "vars", w.values "complete"⟩

def remindCommand (w : Words) : Except Stop Command := do
  let weekdays ← ((w.values "weeks").flatMap (Text.split · ",")).mapM weekday
  let tolerance ← (w.value? "tolerance").mapM seconds
  return .remind ⟨← operand w, weekdays, w.value? "work-time", w.value? "at", tolerance⟩

def completionsCommand (w : Words) : Except Stop Command := do
  match Shell.ofText? (← operand w) with
  | some shell => return .completions shell
  | none => .error .misuse

/-- The words behind a command, and the command itself. -/
def readCommand (name : String) (args : List String) : Except Stop (Words × Command) := do
  let scanned (g : Grammar) (read : Words → Except Stop Command) := do
    let w ← g.scan args
    return (w, ← read w)
  match name, args with
  | "validate", _ => scanned validateGrammar validateCommand
  | "run", _ => scanned runGrammar runCommand
  | "remind", _ => scanned remindGrammar remindCommand
  | "completions", _ => scanned validateGrammar completionsCommand
  | _, [] => .error .help
  | _, [topic] => .error (if outer.commands.contains topic then .help else .misuse)
  | _, _ => .error .misuse

/-- Reads a command line. The environment may name a data directory. -/
def Invocation.parse (environment : Option String) (args : List String) :
    Except Stop Invocation := do
  let before ← outer.scan args
  match before.command with
  | none => .error .misuse
  | some (name, args) =>
    let (behind, command) ← readCommand name args
    let outerDirectory ← directory before environment
    let innerDirectory ← directory behind environment
    let either (option : String) := before.has option || behind.has option
    let verbosity := behind.count "verbose"
    return {
      json := either "json"
      quiet := either "quiet"
      verbosity := if verbosity = 0 then before.count "verbose" else verbosity
      dataDirectory := if behind.has "data-dir" then innerDirectory else outerDirectory
      exporting := either "otel"
      command }

end Workflow.CommandLine
