import Workflow.Text.CaseTable
import Workflow.Text.PrintTable

/-!
Texts in double quotes, in which every character that would not show is written by its number.
-/
namespace Workflow.Text

def isPrintable (c : Char) : Bool := !CaseTable.covers PrintTable.unprintable c.toNat

/-- Whether the character attaches to the one before it. -/
def isExtender (c : Char) : Bool := CaseTable.covers PrintTable.extenders c.toNat

/-- The digits of a number in the hexadecimal system, small letters, without leading zeros. -/
def hexText (n : Nat) : String := String.ofList (Nat.toDigits 16 n)

def escaped (c : Char) : String :=
  match c with
  | '\x00' => "\\0"
  | '\t' => "\\t"
  | '\r' => "\\r"
  | '\n' => "\\n"
  | '"' => "\\\""
  | '\\' => "\\\\"
  | c =>
    if isPrintable c && !isExtender c then c.toString
    else "\\u\x7b" ++ hexText c.toNat ++ "\x7d"

def quoted (s : String) : String := "\"" ++ String.join (s.toList.map escaped) ++ "\""

/-- Quoted texts in brackets. -/
def quotedList (l : List String) : String := "[" ++ ", ".intercalate (l.map quoted) ++ "]"

example : quotedList ["a\"b", "é\n"] = "[\"a\\\"b\", \"é\\n\"]" := by decide +kernel

end Workflow.Text
