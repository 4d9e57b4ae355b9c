import Workflow.Decimal.Layout
import Workflow.Yaml.Reader

/-!
Values as YAML text in block style. A text is written plain where it reads back as itself, and else
in single quotes, in double quotes, or, when it has lines, as a literal block. Lists inside a mapping
are no further in than its keys.
-/
namespace Workflow.Yaml

/-! ### What a text allows -/

/-- The characters that are written as they are. -/
def isWritable (c : Char) : Bool :=
  let n := c.toNat
  n == 10 || (0x20 ≤ n && n ≤ 0x7E) || (0xA0 ≤ n && n ≤ 0xFFFD && n != 0xFEFF)

/-- What can be said of a text before it is written. -/
structure Traits where
  /-- A mark of block style would be read in it. -/
  indicators : Bool
  breaks : Bool
  /-- A space or break stands at one of the ends. -/
  openEnds : Bool
  endsInSpace : Bool
  /-- A space follows a break. -/
  breakSpace : Bool
  /-- A break follows a space. -/
  spaceBreak : Bool
  unwritable : Bool
deriving Repr

def firstIndicators : List Char :=
  ['#', ',', '[', ']', '{', '}', '&', '*', '!', '|', '>', '\'', '"', '%', '@', '`']

/-- Whether a mark stands in the text behind its first character. -/
def hasIndicator (afterSpace : Bool) : List Char → Bool
  | [] => false
  | c :: cs =>
    (c = ':' && endsWord cs) || (c = '#' && afterSpace) ||
      hasIndicator (isGap c || isBreak c) cs

def startsWithIndicator : List Char → Bool
  | '-' :: '-' :: '-' :: _ => true
  | '.' :: '.' :: '.' :: _ => true
  | c :: cs => firstIndicators.contains c || ((c = '?' || c = ':' || c = '-') && endsWord cs)
  | [] => false

/-- Whether two neighbours stand somewhere in a list. -/
def hasPair (p q : Char → Bool) : List Char → Bool
  | a :: b :: cs => (p a && q b) || hasPair p q (b :: cs)
  | _ => false

def traits (cs : List Char) : Traits where
  indicators := startsWithIndicator cs ||
    match cs with
    | c :: rest => hasIndicator (isGap c || isBreak c) rest
    | [] => false
  breaks := cs.any isBreak
  openEnds := cs.head?.any (fun c => c = ' ' || isBreak c) ||
    cs.getLast?.any (fun c => c = ' ' || isBreak c)
  endsInSpace := cs.getLast? = some ' '
  breakSpace := hasPair isBreak (· = ' ') cs
  spaceBreak := hasPair (· = ' ') isBreak cs
  unwritable := cs.any fun c => !isWritable c && !isBreak c

namespace Traits

def allowPlain (t : Traits) : Bool :=
  !(t.indicators || t.breaks || t.openEnds || t.breakSpace || t.spaceBreak || t.unwritable)

def allowSingle (t : Traits) : Bool := !(t.breakSpace || t.spaceBreak || t.unwritable)

def allowBlock (t : Traits) : Bool := !(t.endsInSpace || t.spaceBreak || t.unwritable)

end Traits

/-- Whether a plain scalar of this form is a text. -/
def readsAsText (s : String) : Bool :=
  match plainValue s with
  | some (.text _) => !isPaddedNumber (withoutSign s.toList)
  | _ => false

def styleOf (s : String) : Style :=
  let t := traits s.toList
  if s.toList.contains '\n' then (if t.allowBlock then .literal else .double)
  else if readsAsText s && t.allowPlain then .plain
  else if t.allowSingle then .single
  else .double

/-! ### Scalars -/

def spaces (n : Nat) : List Char := List.replicate n ' '

/-- The lines behind a break begin at column `indent`. -/
def singleFrom (indent : Nat) (afterBreak : Bool) : List Char → List Char
  | [] => if afterBreak then spaces indent else []
  | c :: cs =>
    if isBreak c then c :: singleFrom indent true cs
    else (if afterBreak then spaces indent else []) ++ (if c = '\'' then ['\'', '\''] else [c]) ++
      singleFrom indent false cs

def upperHex (n : Nat) : (width : Nat) → List Char
  | 0 => []
  | width + 1 => upperHex (n / 16) width ++ [(Nat.digitChar (n % 16)).toUpper]

def escapeChar (c : Char) : List Char :=
  match c with
  | '\x00' => ['\\', '0']
  | '\x07' => ['\\', 'a']
  | '\x08' => ['\\', 'b']
  | '\t' => ['\\', 't']
  | '\n' => ['\\', 'n']
  | '\x0b' => ['\\', 'v']
  | '\x0c' => ['\\', 'f']
  | '\r' => ['\\', 'r']
  | '\x1b' => ['\\', 'e']
  | '"' => ['\\', '"']
  | '\\' => ['\\', '\\']
  | '\u0085' => ['\\', 'N']
  | '\u2028' => ['\\', 'L']
  | '\u2029' => ['\\', 'P']
  | c =>
    let n := c.toNat
    if isWritable c then [c]
    else if n ≤ 0xFF then '\\' :: 'x' :: upperHex n 2
    else if n ≤ 0xFFFF then '\\' :: 'u' :: upperHex n 4
    else '\\' :: 'U' :: upperHex n 8

/-- The marks behind `|`: the indentation where it could not be seen, and what becomes of the last
breaks. -/
def literalHeader (cs : List Char) : List Char :=
  (if cs.head?.any (fun c => c = ' ' || isBreak c) then ['2'] else []) ++
    match cs.reverse with
    | [] => ['-']
    | c :: before =>
      if !isBreak c then ['-']
      else if before.head?.all isBreak then ['+'] else []

def literalFrom (indent : Nat) (afterBreak : Bool) : List Char → List Char
  | [] => []
  | c :: cs =>
    if isBreak c then c :: literalFrom indent true cs
    else (if afterBreak then spaces indent else []) ++ c :: literalFrom indent false cs

/-- A text whose further lines begin at column `indent`. -/
def scalarText (indent : Nat) (s : String) : List Char :=
  let cs := s.toList
  match styleOf s with
  | .plain => cs
  | .single => ['\''] ++ singleFrom indent false cs ++ ['\'']
  | .double => ['"'] ++ cs.flatMap escapeChar ++ ['"']
  | .literal | .folded => ['|'] ++ literalHeader cs ++ ['\n'] ++ literalFrom indent true cs

/-! ### Collections -/

/-- Goes to a column of a new line, unless a line has just begun. -/
def newLine (before : List Char) (indent : Nat) : List Char :=
  (if before.getLast?.any isBreak then before else before ++ ['\n']) ++ spaces indent

def leafText (indent : Nat) : Value → List Char
  | .bool true => "true".toList
  | .bool false => "false".toList
  | .number (.int n) => (Decimal.intText n).toList
  | .number (.double x) => (Decimal.Layout.standard.write x).toList
  | .string s => scalarText indent s
  | _ => "null".toList

mutual

/-- Writes a value behind the key of a mapping whose keys stand at column `indent`. -/
def afterKey (indent : Nat) (before : List Char) : Value → List Char
  | .array items =>
    if items.isEmpty then before ++ " []".toList
    else listItems indent (newLine before indent) true items
  | .object fields =>
    if fields.isEmpty then before ++ [' ', '\x7b', '\x7d']
    else mappingFields (indent + 2) (newLine before (indent + 2)) true fields
  | v => before ++ [' '] ++ leafText (indent + 2) v

/-- Writes a value behind the dash of a list whose dashes stand at column `indent`. -/
def afterDash (indent : Nat) (before : List Char) : Value → List Char
  | .array items =>
    if items.isEmpty then before ++ " []".toList
    else listItems (indent + 2) (before ++ [' ']) true items
  | .object fields =>
    if fields.isEmpty then before ++ [' ', '\x7b', '\x7d']
    else mappingFields (indent + 2) (before ++ [' ']) true fields
  | v => before ++ [' '] ++ leafText (indent + 2) v

/-- Writes the items of a list; the `first` one needs no new line. -/
def listItems (indent : Nat) (before : List Char) (first : Bool) : List Value → List Char
  | [] => before
  | v :: vs =>
    let before := if first then before else newLine before indent
    listItems indent (afterDash indent (before ++ ['-']) v) false vs

/-- Writes the fields of a mapping; the `first` one needs no new line. -/
def mappingFields (indent : Nat) (before : List Char) (first : Bool) :
    List (String × Value) → List Char
  | [] => before
  | (k, v) :: fs =>
    let before := if first then before else newLine before indent
    mappingFields indent (afterKey indent (before ++ scalarText indent k ++ [':']) v) false fs

end

/-- A value as a document of its own. -/
def write (v : Value) : String :=
  let text := match v with
    | .array [] => "[]".toList
    | .object [] => ['\x7b', '\x7d']
    | .array items => listItems 0 [] true items
    | .object fields => mappingFields 0 [] true fields
    | v => leafText 0 v
  String.ofList (newLine text 0)

end Workflow.Yaml
