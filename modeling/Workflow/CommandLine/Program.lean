import Workflow.CommandLine.Remind
import Workflow.CommandLine.Run
import Workflow.CommandLine.Spans
import Workflow.CommandLine.Validate
import Workflow.Config.Reader

/-!
The program as a function of its command line and of what it finds around it.
-/
namespace Workflow.CommandLine

structure Environment where
  files : Files.Tree
  home : Option String
  /-- A data directory for command lines that name none. -/
  dataDirectory : Option String
  /-- The text of a filter. -/
  filter : Option String
  supply : Supply

/-- What a run of the program comes to. -/
structure Report where
  exit : Nat
  output : String
  complaint : Option String
  /-- The spans to write out. -/
  spans : List SpanRecord
deriving DecidableEq, Repr

/-- The names by which the program is told what to do. -/
def commandNames : List String := ["validate", "run", "remind", "completions"]

def usage : String :=
  textOf (["Usage: pflow [OPTIONS] <COMMAND>", "", "Commands:"] ++ commandNames.map ("  " ++ ·) ++
    ["", "Options:"] ++ sharedOptions.map fun o => "  --" ++ o.name)

def versionText : String := textOf ["pflow 0.1.0"]

/-- A script that makes a shell offer the commands. -/
def Shell.script (s : Shell) : String :=
  let names := " ".intercalate commandNames
  match s with
  | bash => textOf ["complete -W \"" ++ names ++ "\" pflow"]
  | elvish =>
    textOf ["set edit:completion:arg-completer[pflow] = \x7b|@words| put " ++ names ++ " \x7d"]
  | fish => textOf ["complete -c pflow -f -a \"" ++ names ++ "\""]
  | powershell =>
    textOf ["Register-ArgumentCompleter -Native -CommandName pflow -ScriptBlock \x7b -split '" ++
      names ++ "' \x7d"]
  | zsh => textOf ["#compdef pflow", "compadd " ++ names]

namespace Stop

def report : Stop → Report
  | help => ⟨0, usage, none, []⟩
  | version => ⟨0, versionText, none, []⟩
  | misuse => ⟨2, "", none, []⟩

end Stop

namespace Invocation

def outcome (i : Invocation) (env : Environment) : Outcome :=
  let config := Config.load env.files (Config.dataDirectory i.dataDirectory env.home)
  match i.command with
  | .validate path => validate ⟨.standard, .standard, ∅, config⟩ env.files i.json path
  | .run r => run config env.files env.supply i.json r
  | .remind r => remind config env.supply.now.1 i.json r
  | .completions shell => .done shell.script

def execute (i : Invocation) (env : Environment) : Report :=
  let o := i.outcome env
  let filter := chooseFilter env.filter i.quiet i.verbosity
  ⟨o.exit, o.output, o.complaint, if i.exporting then spans filter o.trace else []⟩

end Invocation

def execute (env : Environment) (args : List String) : Report :=
  match Invocation.parse env.dataDirectory args with
  | .ok i => i.execute env
  | .error stop => stop.report

end Workflow.CommandLine
