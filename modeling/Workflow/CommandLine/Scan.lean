import Workflow.Text.Search

/-!
Command lines as sequences of words. A word is the name of a command, an option in its long form
(`--name`, `--name=value`), a run of options in their short form (`-vv`), or an operand; the word `--`
makes operands of all that follow.
-/
namespace Workflow.CommandLine

/-- What an option takes, and how often it may be given. -/
inductive Shape where
  | flag
  /-- A flag that counts. -/
  | counted
  | single
  | repeated
deriving DecidableEq, Repr

namespace Shape

def takesValue : Shape → Bool
  | single | repeated => true
  | flag | counted => false

def isOnce : Shape → Bool
  | flag | single => true
  | counted | repeated => false

end Shape

structure OptionSpec where
  name : String
  short : Option Char
  shape : Shape
deriving DecidableEq, Repr

/-- What may stand on one level of a command line. -/
structure Grammar where
  options : List OptionSpec
  /-- The commands, each of which opens a level of its own. -/
  commands : List String
  /-- At most how many operands there are. -/
  operands : Nat
deriving DecidableEq, Repr

/-- Why a command line does not lead to a command. -/
inductive Stop where
  | help
  | version
  | misuse
deriving DecidableEq, Repr

/-- The words of one level. -/
structure Words where
  /-- The options in order, each with its value or an empty text. -/
  given : List (String × String)
  operands : List String
  /-- The command that ends the level, and the words behind it. -/
  command : Option (String × List String)
deriving DecidableEq, Repr

namespace Words

def none : Words := ⟨[], [], .none⟩

def withOption (w : Words) (name value : String) : Words :=
  { w with given := (name, value) :: w.given }

def withOperand (w : Words) (s : String) : Words := { w with operands := s :: w.operands }

/-- How often an option is given. -/
def count (w : Words) (name : String) : Nat := (w.given.filter (·.1 == name)).length

def has (w : Words) (name : String) : Bool := w.count name != 0

def values (w : Words) (name : String) : List String :=
  (w.given.filter (·.1 == name)).map Prod.snd

def value? (w : Words) (name : String) : Option String := (w.values name).head?

end Words

/-- Whether a word is read as options rather than as a value. -/
def isDashed (word : String) : Bool := word.startsWith "-" && word != "-"

namespace Grammar

def long? (g : Grammar) (name : String) : Option OptionSpec := g.options.find? (·.name == name)

def short? (g : Grammar) (c : Char) : Option OptionSpec := g.options.find? (·.short == some c)

/-- An option joins the words, unless it is given once more than it may be. -/
def put (rest : Words) (o : OptionSpec) (value : String) : Except Stop Words :=
  if o.shape.isOnce && rest.has o.name then .error .misuse else .ok (rest.withOption o.name value)

def putOperand (g : Grammar) (rest : Words) (s : String) : Except Stop Words :=
  if rest.operands.length < g.operands then .ok (rest.withOperand s) else .error .misuse

/-- The option that a long word names, and the value that is joined to it. -/
def readLong (g : Grammar) (body : String) : Except Stop (OptionSpec × Option String) :=
  let (name, value) := match Text.splitOnce? body "=" with
    | some (name, value) => (name, some value)
    | none => (body, none)
  match g.long? name, value with
  | some o, some v => if o.shape.takesValue then .ok (o, some v) else .error .misuse
  | some o, none => .ok (o, none)
  | none, none =>
    if name == "help" then .error .help
    else if name == "version" then .error .version
    else .error .misuse
  | none, some _ => .error .misuse

/-- Flags in their short form. -/
def readShort (g : Grammar) : List Char → Except Stop (List OptionSpec)
  | [] => .ok []
  | c :: cs =>
    match g.short? c with
    | some o => (g.readShort cs).map (o :: ·)
    | none => .error (if c = 'h' then .help else if c = 'V' then .version else .misuse)

end Grammar

/-- What a word that is dashed says, but for the value of an option that stands in the next word. -/
inductive Dashed where
  | settled (flags : List OptionSpec)
  | withValue (o : OptionSpec) (value : String)
  | waiting (o : OptionSpec)
deriving DecidableEq, Repr

namespace Grammar

def readDashed (g : Grammar) (word : String) : Except Stop Dashed :=
  match Text.afterPrefix? word "--" with
  | some body => do
    let (o, value) ← g.readLong body
    return match value, o.shape.takesValue with
      | some v, _ => .withValue o v
      | none, true => .waiting o
      | none, false => .settled [o]
  | none => return .settled (← g.readShort (word.toList.drop 1))

/-- Reads on; the latest of what was seen stands first. -/
def readFrom (g : Grammar) (seen : Words) : List String → Except Stop Words
  | [] => .ok seen
  | word :: rest =>
    if g.commands.contains word then .ok { seen with command := some (word, rest) }
    else if word = "--" then rest.foldlM g.putOperand seen
    else if isDashed word then
      match g.readDashed word with
      | .error e => .error e
      | .ok (.settled flags) => do
        readFrom g (← flags.foldlM (fun w o => put w o "") seen) rest
      | .ok (.withValue o v) => do readFrom g (← put seen o v) rest
      | .ok (.waiting o) =>
        match rest with
        | [] => .error .misuse
        | v :: rest =>
          if isDashed v then .error .misuse else do readFrom g (← put seen o v) rest
    else do readFrom g (← g.putOperand seen word) rest

/-- The words of a level in the order in which they stand. -/
def scan (g : Grammar) (args : List String) : Except Stop Words := do
  let w ← g.readFrom .none args
  return { w with given := w.given.reverse, operands := w.operands.reverse }

end Grammar

end Workflow.CommandLine
