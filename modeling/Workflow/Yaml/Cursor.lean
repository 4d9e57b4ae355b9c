/-!
A place in a text, with its line and column. Columns count characters from the last line break.
-/
namespace Workflow.Yaml

def isBreak (c : Char) : Bool :=
  c = '\n' || c = '\r' || c = '\u0085' || c = '\u2028' || c = '\u2029'

def isGap (c : Char) : Bool := c = ' ' || c = '\t'

/-- Whether a word ends here: at a gap, a line break or the end of the text. -/
def endsWord : List Char → Bool
  | [] => true
  | c :: _ => isGap c || isBreak c

/-- Whether a line ends here. -/
def endsLine : List Char → Bool
  | [] => true
  | c :: _ => isBreak c

structure Cursor where
  rest : List Char
  index : Nat
  line : Nat
  column : Nat
deriving Repr

namespace Cursor

def start (cs : List Char) : Cursor := ⟨cs, 0, 0, 0⟩

/-- Passes so many characters of the line. -/
def skip (c : Cursor) (n : Nat) : Cursor := ⟨c.rest.drop n, c.index + n, c.line, c.column + n⟩

/-- Passes the characters up to the first one that fails the test. -/
def skipWhile (p : Char → Bool) (c : Cursor) : Cursor := c.skip (c.rest.takeWhile p).length

/-- What a line break stands for in the text of a scalar. -/
def breakText (b : Char) : List Char := if b = '\u2028' ∨ b = '\u2029' then [b] else ['\n']

/-- The text of the line break at the cursor, if there is one, and the start of the next line. -/
def lineBreak (c : Cursor) : List Char × Cursor :=
  match c.rest with
  | '\r' :: '\n' :: rest => (['\n'], ⟨rest, c.index + 2, c.line + 1, 0⟩)
  | b :: rest =>
    if isBreak b then (breakText b, ⟨rest, c.index + 1, c.line + 1, 0⟩) else ([], c)
  | [] => ([], c)

def skipBreak (c : Cursor) : Cursor := c.lineBreak.2

def head? (c : Cursor) : Option Char := c.rest.head?

/-- Whether one of the marks `---` and `...` stands at the start of the line. -/
def atDocumentMark (c : Cursor) : Bool :=
  c.column == 0 &&
    match c.rest with
    | '-' :: '-' :: '-' :: rest => endsWord rest
    | '.' :: '.' :: '.' :: rest => endsWord rest
    | _ => false

end Cursor

end Workflow.Yaml
