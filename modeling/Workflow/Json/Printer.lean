import Workflow.Data.Value
import Workflow.Decimal.Layout

/-!
Values as JSON text, on one line without spaces (`compact`) or with an indent of two (`pretty`).
-/
namespace Workflow.Json

def hexDigit (n : Nat) : Char := Nat.digitChar n

/-- Quotes, backslashes and control characters are escaped, and nothing else. -/
def escapeChar (c : Char) : List Char :=
  match c with
  | '"' => ['\\', '"']
  | '\\' => ['\\', '\\']
  | '\x08' => ['\\', 'b']
  | '\x0c' => ['\\', 'f']
  | '\n' => ['\\', 'n']
  | '\r' => ['\\', 'r']
  | '\t' => ['\\', 't']
  | c =>
    if c.toNat < 32 then
      ['\\', 'u', '0', '0', hexDigit (c.toNat / 16), hexDigit (c.toNat % 16)]
    else [c]

def quote (s : String) : String :=
  String.ofList (['"'] ++ s.toList.flatMap escapeChar ++ ['"'])

def number : Number → String
  | .int n => Decimal.intText n
  | .double x => Decimal.Layout.standard.write x

mutual

def compact : Value → String
  | .null => "null"
  | .bool b => if b then "true" else "false"
  | .number n => number n
  | .string s => quote s
  | .array [] => "[]"
  | .array (v :: vs) => "[" ++ compact v ++ compactItems vs ++ "]"
  | .object [] => "\x7b\x7d"
  | .object ((k, v) :: fs) => "\x7b" ++ quote k ++ ":" ++ compact v ++ compactFields fs ++ "\x7d"

def compactItems : List Value → String
  | [] => ""
  | v :: vs => "," ++ compact v ++ compactItems vs

def compactFields : List (String × Value) → String
  | [] => ""
  | (k, v) :: fs => "," ++ quote k ++ ":" ++ compact v ++ compactFields fs

end

/-- A new line, indented to the depth. -/
def newline (depth : Nat) : String := String.ofList ('\n' :: List.replicate (2 * depth) ' ')

mutual

def prettyAt (depth : Nat) : Value → String
  | .array (v :: vs) =>
    "[" ++ newline (depth + 1) ++ prettyAt (depth + 1) v ++ prettyItems (depth + 1) vs ++
      newline depth ++ "]"
  | .object ((k, v) :: fs) =>
    "\x7b" ++ newline (depth + 1) ++ quote k ++ ": " ++ prettyAt (depth + 1) v ++
      prettyFields (depth + 1) fs ++ newline depth ++ "\x7d"
  | v => compact v

def prettyItems (depth : Nat) : List Value → String
  | [] => ""
  | v :: vs => "," ++ newline depth ++ prettyAt depth v ++ prettyItems depth vs

def prettyFields (depth : Nat) : List (String × Value) → String
  | [] => ""
  | (k, v) :: fs =>
    "," ++ newline depth ++ quote k ++ ": " ++ prettyAt depth v ++ prettyFields depth fs

end

def pretty (v : Value) : String := prettyAt 0 v

end Workflow.Json
