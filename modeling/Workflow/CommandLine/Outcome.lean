import Workflow.Engine.Trace
import Workflow.Json.Printer

/-!
What a command leaves behind.
-/
namespace Workflow.CommandLine

structure Outcome where
  exit : Nat
  /-- What is printed. -/
  output : String
  /-- What went wrong. -/
  complaint : Option String
  trace : List TraceEntry
deriving DecidableEq, Repr

namespace Outcome

def done (output : String) : Outcome := ⟨0, output, none, []⟩

def failed (complaint : String) : Outcome := ⟨1, "", some complaint, []⟩

/-- The exit of a program that breaks off. -/
def broken : Outcome := ⟨101, "", none, []⟩

end Outcome

def orNull (f : α → Value) : Option α → Value
  | none => .null
  | some a => f a

/-- Lines of text, each ended. -/
def textOf (lines : List String) : String := String.join (lines.map (· ++ "\n"))

/-- A value on lines of its own, with fields in the order of their names. -/
def jsonText (v : Value) : String := textOf [Json.pretty v.inKeyOrder]

end Workflow.CommandLine
