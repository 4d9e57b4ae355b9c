import Workflow.Yaml.Cursor

/-!
The scalars of a YAML text: plain, in single or double quotes, or as blocks of lines that are kept
(`|`) or folded (`>`). Reading one gives its text and the place behind it.
-/
namespace Workflow.Yaml

inductive Style where
  | plain
  | single
  | double
  | literal
  | folded
deriving DecidableEq, Repr

/-! ### Gaps between words -/

/-- The white space between two words: blanks inside a line, or line breaks of which the first is
told from those behind it. -/
structure Gap where
  blanks : List Char
  first : Option (List Char)
  others : List Char
deriving Repr

namespace Gap

def none : Gap := ⟨[], .none, []⟩

/-- A single line break becomes a space, and of several the first disappears. -/
def fold (first others : List Char) : List Char :=
  if first = ['\n'] then (if others.isEmpty then [' '] else others) else first ++ others

def text (g : Gap) : List Char :=
  match g.first with
  | .none => g.blanks
  | some first => fold first g.others

def broken (g : Gap) : Bool := g.first.isSome

/-- Reads on through a gap. Behind a line break no tab may stand before column `indent`. -/
def extend (indent : Nat) (g : Gap) (c : Cursor) : (fuel : Nat) → Option (Gap × Cursor)
  | 0 => some (g, c)
  | fuel + 1 =>
    match c.rest with
    | [] => some (g, c)
    | b :: _ =>
      if isGap b then
        if g.broken then
          if b = '\t' ∧ c.column < indent then .none else extend indent g (c.skip 1) fuel
        else extend indent { g with blanks := g.blanks ++ [b] } (c.skip 1) fuel
      else if isBreak b then
        let (text, c) := c.lineBreak
        match g.first with
        | .none => extend indent ⟨[], some text, []⟩ c fuel
        | some _ => extend indent { g with others := g.others ++ text } c fuel
      else some (g, c)

def read (indent : Nat) (g : Gap) (c : Cursor) : Option (Gap × Cursor) :=
  g.extend indent c (c.rest.length + 1)

end Gap

/-! ### Plain scalars -/

def isFlowMark (c : Char) : Bool := c = ',' || c = '[' || c = ']' || c = '{' || c = '}'

/-- How many characters a word of a plain scalar has. Inside brackets a colon must not stand before
one of their marks. -/
def plainWord (inFlow : Bool) : List Char → Option Nat
  | [] => some 0
  | c :: cs =>
    if isGap c || isBreak c then some 0
    else if inFlow && c = ':' && cs.head?.any (fun d => isFlowMark d || d = '?') then none
    else if (c = ':' && endsWord cs) || (inFlow && isFlowMark c) then some 0
    else (plainWord inFlow cs).map (· + 1)

/-- `gap` is what stands between the text so far and the cursor. -/
def plainFrom (inFlow : Bool) (indent : Nat) (text : List Char) (gap : Gap) (c : Cursor) :
    (fuel : Nat) → Option (List Char × Bool × Cursor)
  | 0 => none
  | fuel + 1 =>
    if c.atDocumentMark || c.head? = some '#' then some (text, gap.broken, c)
    else
      match plainWord inFlow c.rest with
      | none => none
      | some 0 =>
        if endsWord c.rest && !c.rest.isEmpty then plainGap text gap c fuel
        else some (text, gap.broken, c)
      | some n => plainGap (text ++ gap.text ++ c.rest.take n) .none (c.skip n) fuel
where
  /-- Reads the gap behind a word, and goes on unless the scalar ends with it. -/
  plainGap (text : List Char) (gap : Gap) (c : Cursor) :
      (fuel : Nat) → Option (List Char × Bool × Cursor)
    | 0 => none
    | fuel + 1 =>
      if c.rest.isEmpty || !endsWord c.rest then some (text, gap.broken, c)
      else
        match gap.read indent c with
        | none => none
        | some (gap, c) =>
          if !inFlow && c.column < indent then some (text, gap.broken, c)
          else plainFrom inFlow indent text gap c fuel

/-- The text of a plain scalar, and whether a line break stands behind it. Outside brackets its
further lines are at least as far in as `indent`. -/
def readPlain (inFlow : Bool) (indent : Nat) (c : Cursor) : Option (List Char × Bool × Cursor) :=
  plainFrom inFlow indent [] .none c (2 * c.rest.length + 2)

/-! ### Quoted scalars -/

def hexDigit? (c : Char) : Option Nat :=
  if c.isDigit then some (c.toNat - '0'.toNat)
  else if 'a' ≤ c ∧ c ≤ 'f' then some (c.toNat - 'a'.toNat + 10)
  else if 'A' ≤ c ∧ c ≤ 'F' then some (c.toNat - 'A'.toNat + 10)
  else none

/-- The character of so many hexadecimal digits. -/
def hexChar? (digits : Nat) (cs : List Char) : Option Char :=
  let ds := cs.take digits
  if ds.length < digits then none
  else
    (ds.foldlM (fun n c => (hexDigit? c).map (n * 16 + ·)) 0).bind fun n =>
      if h : n.isValidChar then some (Char.ofNatAux n h) else none

/-- The character behind a backslash stands for one character or begins a hexadecimal number. -/
def simpleEscape? : Char → Option Char
  | '0' => some '\x00'
  | 'a' => some '\x07'
  | 'b' => some '\x08'
  | 't' | '\t' => some '\t'
  | 'n' => some '\n'
  | 'v' => some '\x0b'
  | 'f' => some '\x0c'
  | 'r' => some '\r'
  | 'e' => some '\x1b'
  | ' ' => some ' '
  | '"' => some '"'
  | '/' => some '/'
  | '\\' => some '\\'
  | 'N' => some '\u0085'
  | '_' => some '\u00a0'
  | 'L' => some '\u2028'
  | 'P' => some '\u2029'
  | _ => none

def hexWidth? : Char → Option Nat
  | 'x' => some 2
  | 'u' => some 4
  | 'U' => some 8
  | _ => none

/-- What a backslash and the characters behind it stand for, and their number. -/
def escape? : List Char → Option (Char × Nat)
  | [] => none
  | c :: cs =>
    match simpleEscape? c, hexWidth? c with
    | some d, _ => some (d, 2)
    | none, some n => (hexChar? n cs).map fun d => (d, n + 2)
    | none, none => none

/-- A word between quotes, and whether it ends with an escaped line break. -/
def quotedWord (double : Bool) (text : List Char) (c : Cursor) :
    (fuel : Nat) → Option (List Char × Bool × Cursor)
  | 0 => none
  | fuel + 1 =>
    match c.rest with
    | '\'' :: '\'' :: _ =>
      if double then quotedWord double (text ++ ['\'']) (c.skip 1) fuel
      else quotedWord double (text ++ ['\'']) (c.skip 2) fuel
    | '\\' :: cs =>
      if !double then quotedWord double (text ++ ['\\']) (c.skip 1) fuel
      else if !cs.isEmpty && endsLine cs then some (text, true, (c.skip 1).skipBreak)
      else match escape? cs with
        | some (d, n) => quotedWord double (text ++ [d]) (c.skip n) fuel
        | none => none
    | d :: _ =>
      if isGap d || isBreak d || d = (if double then '"' else '\'') then some (text, false, c)
      else quotedWord double (text ++ [d]) (c.skip 1) fuel
    | [] => some (text, false, c)

def quotedFrom (double : Bool) (text : List Char) (c : Cursor) :
    (fuel : Nat) → Option (List Char × Cursor)
  | 0 => none
  | fuel + 1 =>
    if c.atDocumentMark then none
    else
      match quotedWord double text c (c.rest.length + 1) with
      | none => none
      | some (text, escaped, c) =>
        match c.rest with
        | [] => none
        | d :: _ =>
          if d = (if double then '"' else '\'') && !escaped then some (text, c.skip 1)
          else
            let gap : Gap := if escaped then ⟨[], some [], []⟩ else .none
            match gap.read 0 c with
            | none => none
            | some (gap, c) => quotedFrom double (text ++ gap.text) c fuel

/-- The text between quotes; the cursor stands behind the opening one. -/
def readQuoted (double : Bool) (c : Cursor) : Option (List Char × Cursor) :=
  quotedFrom double [] c (c.rest.length + 1)

/-! ### Blocks -/

/-- What becomes of the line breaks at the end of a block. -/
inductive Chomp where
  | strip
  | clip
  | keep
deriving DecidableEq, Repr

def chomp? : Char → Option Chomp
  | '+' => some .keep
  | '-' => some .strip
  | _ => none

/-- The marks behind `|` or `>`: what becomes of the last breaks, and a number of columns. -/
def blockHeader (c : Cursor) : Option (Chomp × Option Nat × Cursor) :=
  let width? (d : Char) : Option Nat := if d.isDigit then some (d.toNat - '0'.toNat) else none
  let result : Chomp × Option Nat × Cursor :=
    match c.rest with
    | a :: b :: _ =>
      match chomp? a, width? a with
      | some chomp, _ =>
        match width? b with
        | some n => (chomp, some n, c.skip 2)
        | none => (chomp, none, c.skip 1)
      | none, some n =>
        match chomp? b with
        | some chomp => (chomp, some n, c.skip 2)
        | none => (.clip, some n, c.skip 1)
      | none, none => (.clip, none, c)
    | [a] =>
      match chomp? a, width? a with
      | some chomp, _ => (chomp, none, c.skip 1)
      | none, some n => (.clip, some n, c.skip 1)
      | none, none => (.clip, none, c)
    | [] => (.clip, none, c)
  if result.2.1 = some 0 then none else some result

/-- Passes empty lines, and the blanks before the first line that is not empty up to column
`indent`, if that is known. Gives the line breaks and the widest run of blanks. -/
def blockBreaks (indent : Option Nat) (widest : Nat) (breaks : List Char) (c : Cursor) :
    (fuel : Nat) → Option (Nat × List Char × Cursor)
  | 0 => none
  | fuel + 1 =>
    let blanks := (c.rest.takeWhile (· = ' ')).length
    let taken := match indent with
      | some n => min blanks (n - c.column)
      | none => blanks
    let c := c.skip taken
    let widest := max widest c.column
    let inside := match indent with
      | some n => n ≤ c.column
      | none => false
    if !inside && c.head? = some '\t' then none
    else if c.head?.any isBreak then
      let (b, c) := c.lineBreak
      blockBreaks indent widest (breaks ++ b) c fuel
    else some (widest, breaks, c)

structure Block where
  text : List Char
  /-- The line break behind the text so far. -/
  last : List Char
  /-- The breaks of the empty lines behind it. -/
  empty : List Char
  /-- Whether the last line began with a blank. -/
  spaced : Bool

/-- The lines of a block at column `indent`. -/
def blockLines (isFolded : Bool) (indent : Nat) (b : Block) (c : Cursor) :
    (fuel : Nat) → Option (Block × Cursor)
  | 0 => none
  | fuel + 1 =>
    if c.column ≠ indent ∨ c.rest.isEmpty then some (b, c)
    else
      let spaced := c.head?.any isGap
      let joint :=
        if isFolded && b.last = ['\n'] && !b.spaced && !spaced then
          (if b.empty.isEmpty then [' '] else [])
        else b.last
      let line := c.rest.takeWhile fun d => !isBreak d
      let (last, c) := (c.skip line.length).lineBreak
      match blockBreaks (some indent) 0 [] c (c.rest.length + 1) with
      | none => none
      | some (_, empty, c) =>
        blockLines isFolded indent ⟨b.text ++ joint ++ b.empty ++ line, last, empty, spaced⟩ c fuel

/-- The text of a block; the cursor stands behind its first mark. `parent` is the column of the
collection around it, if there is one. -/
def readBlock (isFolded : Bool) (parent : Option Nat) (c : Cursor) : Option (List Char × Cursor) :=
  match blockHeader c with
  | none => none
  | some (chomp, width, c) =>
    let c := c.skipWhile isGap
    let c := if c.head? = some '#' then c.skipWhile fun d => !isBreak d else c
    if !endsLine c.rest then none
    else
      let c := c.skipBreak
      let least := match parent with
        | some n => n + 1
        | none => 0
      let given := width.map fun n => (parent.getD 0) + n
      match blockBreaks given 0 [] c (c.rest.length + 1) with
      | none => none
      | some (widest, empty, c) =>
        let indent := given.getD (max (max widest least) 1)
        match blockLines isFolded indent ⟨[], [], empty, false⟩ c (c.rest.length + 1) with
        | none => none
        | some (b, c) =>
          some (match chomp with
            | .strip => (b.text, c)
            | .clip => (b.text ++ b.last, c)
            | .keep => (b.text ++ b.last ++ b.empty, c))

end Workflow.Yaml
