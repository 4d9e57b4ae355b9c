import Workflow.Text.CaseTable
import Workflow.Text.PrintTable
import Workflow.Text.WidthTable

/-!
How many columns a text takes in a grid of equal cells. Most characters take one, those of the East
two, and those that attach to others none; a picture made of several characters takes two.
-/
namespace Workflow.Text

open CaseTable (covers)

/-- Joins the pictures on both sides into one. -/
def joiner : Char := '\u200d'

/-- Makes a picture of the character in front. -/
def pictureSelector : Char := '\ufe0f'

/-- Attaches to a picture in front as its colour. -/
def isTint (c : Char) : Bool := 0x1F3FB ≤ c.toNat && c.toNat ≤ 0x1F3FF

def isUnseen (c : Char) : Bool :=
  covers WidthTable.unseen c.toNat || (covers PrintTable.extenders c.toNat && c.toNat ≠ 0x2D7F)

def isWide (c : Char) : Bool := covers WidthTable.wide c.toNat

def columnsOf (c : Char) : Nat :=
  if c.toNat < 0x80 then 1 else if isUnseen c then 0 else if isWide c then 2 else 1

/-- Whether a character may be part of a picture of several characters. -/
def isPicture (c : Char) : Bool := 0x2000 ≤ c.toNat && isWide c

/-- What the next character may attach to. -/
inductive Attachment where
  | none
  /-- A character of one column that a selector widens. -/
  | narrow
  | picture
  /-- A picture with a joiner behind it. -/
  | joined
deriving DecidableEq, Repr

/-- The columns that a character adds behind what it may attach to. -/
def step (before : Attachment) (c : Char) : Nat × Attachment :=
  if c = joiner then (0, if before = .picture then .joined else .none)
  else if c = pictureSelector then
    match before with
    | .narrow => (1, .picture)
    | before => (0, before)
  else if isTint c && before = .picture then (0, .picture)
  else if isPicture c then (if before = .joined then 0 else 2, .picture)
  else if covers WidthTable.picturable c.toNat then
    if before = .joined then (0, .picture) else (columnsOf c, .narrow)
  else (columnsOf c, .none)

def columnsFrom (before : Attachment) : List Char → Nat
  | [] => 0
  | c :: cs => (step before c).1 + columnsFrom (step before c).2 cs

def columns (s : String) : Nat := columnsFrom .none s.toList

example : ["gate", "é", "e\u0301", "審査", "✔\ufe0f", "👩\u200d💻", "👍🏽", "🇫🇮"].map columns =
    [4, 1, 1, 4, 2, 2, 2, 2] := by decide +kernel

end Workflow.Text
