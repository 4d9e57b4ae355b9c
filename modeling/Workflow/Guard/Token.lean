import Workflow.Guard.Expr

/-!
The words of guard expressions. Only ASCII texts have any.
-/
namespace Workflow.Guard

inductive Token where
  | null
  | bool (b : Bool)
  | number (x : Float)
  | string (s : String)
  | ident (name : String)
  | connective (c : Connective)
  | operator (op : Operator)
  | question | colon | bar | dot | comma
  | openParen | closeParen | openBracket | closeBracket | openBrace | closeBrace
deriving DecidableEq, Repr

namespace Token

def ofWord (w : String) : Token :=
  if w = "true" then .bool true
  else if w = "false" then .bool false
  else if w = "null" then .null
  else if w = "in" then .operator .isIn
  else .ident w

def isWordStart (c : Char) : Bool := c.isAlpha || c = '_'

def isWordChar (c : Char) : Bool := c.isAlphanum || c = '_'

def isSpace (c : Char) : Bool := c = ' ' || (9 ≤ c.toNat && c.toNat ≤ 13)

def decimal (whole fraction : List Char) : Float :=
  let n := (whole ++ fraction).foldl (fun n c => n * 10 + (c.toNat - '0'.toNat)) 0
  Float.ofScientific n true fraction.length

/-- Digits, and a fraction where a point with a digit behind it follows. -/
def numberAt (cs : List Char) : Token × List Char :=
  let whole := cs.takeWhile Char.isDigit
  let rest := cs.dropWhile Char.isDigit
  match rest with
  | '.' :: c :: more =>
    if c.isDigit then
      (.number (decimal whole ((c :: more).takeWhile Char.isDigit)), (c :: more).dropWhile Char.isDigit)
    else (.number (decimal whole []), rest)
  | _ => (.number (decimal whole []), rest)

/-- A text up to its closing quote. Only that quote can be escaped. -/
def stringTail (quote : Char) (acc : List Char) : List Char → Option (Token × List Char)
  | [] => none
  | '\\' :: c :: cs => if c = quote then stringTail quote (c :: acc) cs else none
  | c :: cs =>
    if c = quote then some (.string (String.ofList acc.reverse), cs)
    else if c = '\\' then none
    else stringTail quote (c :: acc) cs

/-- The first word of a text that begins with one. -/
def next? : List Char → Option (Token × List Char)
  | '&' :: '&' :: cs => some (.connective .both, cs)
  | '|' :: '|' :: cs => some (.connective .either, cs)
  | '|' :: cs => some (.bar, cs)
  | '=' :: '=' :: cs => some (.operator .equal, cs)
  | '!' :: '=' :: cs => some (.operator .notEqual, cs)
  | '<' :: '=' :: cs => some (.operator .lessEqual, cs)
  | '>' :: '=' :: cs => some (.operator .greaterEqual, cs)
  | '<' :: cs => some (.operator .less, cs)
  | '>' :: cs => some (.operator .greater, cs)
  | '/' :: '/' :: cs => some (.operator .floorDivide, cs)
  | '/' :: cs => some (.operator .divide, cs)
  | '*' :: cs => some (.operator .multiply, cs)
  | '+' :: cs => some (.operator .add, cs)
  | '-' :: cs => some (.operator .subtract, cs)
  | '%' :: cs => some (.operator .modulus, cs)
  | '^' :: cs => some (.operator .power, cs)
  | '?' :: cs => some (.question, cs)
  | ':' :: cs => some (.colon, cs)
  | ',' :: cs => some (.comma, cs)
  | '(' :: cs => some (.openParen, cs)
  | ')' :: cs => some (.closeParen, cs)
  | '[' :: cs => some (.openBracket, cs)
  | ']' :: cs => some (.closeBracket, cs)
  | '\x7b' :: cs => some (.openBrace, cs)
  | '\x7d' :: cs => some (.closeBrace, cs)
  | '\'' :: cs => stringTail '\'' [] cs
  | '"' :: cs => stringTail '"' [] cs
  | '.' :: c :: cs => if c.isDigit then some (numberAt ('.' :: c :: cs)) else some (.dot, c :: cs)
  | '.' :: [] => some (.dot, [])
  | c :: cs =>
    if c.isDigit then some (numberAt (c :: cs))
    else if isWordStart c then
      some (ofWord (String.ofList ((c :: cs).takeWhile isWordChar)), (c :: cs).dropWhile isWordChar)
    else none
  | [] => none

def scanList (cs : List Char) : Option (List Token) :=
  match cs.dropWhile isSpace with
  | [] => some []
  | c :: rest =>
    match next? (c :: rest) with
    | none => none
    | some (t, rest) =>
      if _h : rest.length < cs.length then (scanList rest).map (t :: ·) else none
  termination_by cs.length

/-- The words of a text, or nothing where it has a character that begins none. -/
def scan (s : String) : Option (List Token) :=
  if s.toList.all (·.toNat < 128) then scanList s.toList else none

end Token

end Workflow.Guard
