import Workflow.Data.Value

/-!
JSON text as values. Whole numbers that fit in 64 bits stay whole; every other number becomes a
double, computed from its leading digits and a power of ten. Of two fields with one name the later
counts, and lists and objects nest at most 127 deep.
-/
namespace Workflow.Json

/-- What is read, and the text after it. -/
abbrev Parser (α : Type) := List Char → Option (α × List Char)

def isSpace (c : Char) : Bool := c = ' ' || c = '\n' || c = '\t' || c = '\r'

def skipSpace (cs : List Char) : List Char := cs.dropWhile isSpace

def digitValue (c : Char) : Nat := c.toNat - '0'.toNat

/-! ### Numbers -/

/-- The largest whole number that the digits of a number are gathered in. -/
def wordMax : Nat := UInt64.size - 1

/-- Digits gathered while they fit in a word: their value, how many were taken, and the rest. -/
def gather (acc taken : Nat) : List Char → Nat × Nat × List Char
  | [] => (acc, taken, [])
  | c :: cs =>
    if c.isDigit ∧ acc * 10 + digitValue c ≤ wordMax then
      gather (acc * 10 + digitValue c) (taken + 1) cs
    else (acc, taken, c :: cs)

/-- `x * 10 ^ e`, by one multiplication or division for exponents up to 308 and by further
divisions below; nothing where the result is infinite. -/
def scaleDown (x : Float) : (steps : Nat) → (e : Nat) → Float
  | 0, e => x / Float.ofScientific 1 false e
  | steps + 1, e =>
    if e ≤ 308 then x / Float.ofScientific 1 false e
    else if x == 0 then x
    else scaleDown (x / 1e308) steps (e - 308)

def scale? (significand : Nat) (e : Int) : Option Float :=
  let x := significand.toUInt64.toFloat
  if e < 0 then some (scaleDown x (e.natAbs / 308 + 1) e.natAbs)
  else if e ≤ 308 then
    let y := x * Float.ofScientific 1 false e.toNat
    if y.isInf then none else some y
  else if x == 0 then some x
  else none

/-- The exponent part after its mark. A huge one makes zero of a number, or nothing when it is
positive and the number is not zero. -/
def exponent? (negative : Bool) (significand : Nat) (start : Int) : Parser Number := fun cs =>
  let (down, cs) := match cs with
    | '+' :: cs => (false, cs)
    | '-' :: cs => (true, cs)
    | cs => (false, cs)
  let ds := cs.takeWhile Char.isDigit
  let rest := cs.dropWhile Char.isDigit
  if ds.isEmpty then none
  else
    let e := ds.foldl (fun n c => n * 10 + digitValue c) 0
    if Nat.pow 2 31 ≤ e then
      if significand ≠ 0 ∧ !down then none
      else some (.double (if negative then -0.0 else 0.0), rest)
    else
      (scale? significand (if down then start - e else start + e)).map fun x =>
        (.double (if negative then -x else x), rest)

def scaledNumber (negative : Bool) (significand : Nat) (e : Int) : Parser Number := fun cs =>
  match cs with
  | 'e' :: cs | 'E' :: cs => exponent? negative significand e cs
  | cs => (scale? significand e).map fun x => (.double (if negative then -x else x), cs)

/-- The digits after a point; those that no longer fit are passed over. -/
def fraction? (negative : Bool) (significand : Nat) (e : Int) : Parser Number := fun cs =>
  let (significand, taken, rest) := gather significand 0 cs
  if taken = 0 ∧ !(rest.headD ' ').isDigit then none
  else scaledNumber negative significand (e - taken) (rest.dropWhile Char.isDigit)

def numberAfter (negative : Bool) (significand : Nat) (cs : List Char) : Option (Number × List Char) :=
  if (cs.headD ' ').isDigit then
    let long := cs.takeWhile Char.isDigit
    match cs.dropWhile Char.isDigit with
    | '.' :: rest => fraction? negative significand long.length rest
    | rest => scaledNumber negative significand long.length rest
  else match cs with
    | '.' :: rest => fraction? negative significand 0 rest
    | 'e' :: _ | 'E' :: _ => scaledNumber negative significand 0 cs
    | _ =>
      if !negative then some (.int significand, cs)
      else if significand = 0 ∨ Nat.pow 2 63 < significand then
        some (.double (-(significand.toUInt64.toFloat)), cs)
      else some (.int (-significand), cs)

def unsigned? (negative : Bool) : Parser Number
  | '0' :: cs => if (cs.headD ' ').isDigit then none else numberAfter negative 0 cs
  | c :: cs =>
    if c.isDigit then
      let (n, _, rest) := gather 0 0 (c :: cs)
      numberAfter negative n rest
    else none
  | [] => none

/-! ### Texts -/

def hexValue? (c : Char) : Option Nat :=
  if c.isDigit then some (digitValue c)
  else if 'a' ≤ c ∧ c ≤ 'f' then some (c.toNat - 'a'.toNat + 10)
  else if 'A' ≤ c ∧ c ≤ 'F' then some (c.toNat - 'A'.toNat + 10)
  else none

/-- The value of four hexadecimal digits. -/
def hexWord? (a b c d : Char) : Option Nat :=
  match hexValue? a, hexValue? b, hexValue? c, hexValue? d with
  | some a, some b, some c, some d => some (((a * 16 + b) * 16 + c) * 16 + d)
  | _, _, _, _ => none

def simpleEscape? : Char → Option Char
  | '"' => some '"'
  | '\\' => some '\\'
  | '/' => some '/'
  | 'b' => some '\x08'
  | 'f' => some '\x0c'
  | 'n' => some '\n'
  | 'r' => some '\r'
  | 't' => some '\t'
  | _ => none

/-- The rest of a text after its opening quote, read onto `acc` in reverse. -/
def stringTail (acc : List Char) : Parser String
  | [] => none
  | '"' :: cs => some (String.ofList acc.reverse, cs)
  | '\\' :: 'u' :: a :: b :: c :: d :: '\\' :: 'u' :: a' :: b' :: c' :: d' :: cs =>
    match hexWord? a b c d, hexWord? a' b' c' d' with
    | some hi, some lo =>
      if 0xD800 ≤ hi ∧ hi < 0xDC00 then
        if 0xDC00 ≤ lo ∧ lo < 0xE000 then
          stringTail (Char.ofNat (0x10000 + (hi - 0xD800) * 0x400 + (lo - 0xDC00)) :: acc) cs
        else none
      else if 0xDC00 ≤ hi ∧ hi < 0xE000 then none
      else stringTail (Char.ofNat hi :: acc) ('\\' :: 'u' :: a' :: b' :: c' :: d' :: cs)
    | _, _ => none
  | '\\' :: 'u' :: a :: b :: c :: d :: cs =>
    match hexWord? a b c d with
    | some n => if 0xD800 ≤ n ∧ n < 0xE000 then none else stringTail (Char.ofNat n :: acc) cs
    | none => none
  | '\\' :: c :: cs =>
    match simpleEscape? c with
    | some e => stringTail (e :: acc) cs
    | none => none
  | c :: cs => if c.toNat < 32 then none else stringTail (c :: acc) cs

/-! ### Lists and objects -/

/-- Reads `item`s up to the closing bracket, separated by commas. -/
def itemsTail (close : Char) (item : Parser α) (acc : List α) (cs : List Char) :
    Option (List α × List Char) :=
  match item cs with
  | none => none
  | some (a, rest) =>
    match skipSpace rest with
    | [] => none
    | c :: more =>
      if c = close then some ((a :: acc).reverse, more)
      else if c = ',' then
        if _h : more.length < cs.length then itemsTail close item (a :: acc) more else none
      else none
  termination_by cs.length

def items (close : Char) (item : Parser α) : Parser (List α) := fun cs =>
  match skipSpace cs with
  | c :: rest => if c = close then some ([], rest) else itemsTail close item [] (c :: rest)
  | [] => none

def field (value : Parser Value) : Parser (String × Value) := fun cs =>
  match skipSpace cs with
  | '"' :: cs =>
    match stringTail [] cs with
    | some (k, rest) =>
      match skipSpace rest with
      | ':' :: rest => (value rest).map fun p => ((k, p.1), p.2)
      | _ => none
    | none => none
  | _ => none

def value : (depth : Nat) → Parser Value
  | depth, cs =>
    match skipSpace cs with
    | 'n' :: 'u' :: 'l' :: 'l' :: cs => some (.null, cs)
    | 't' :: 'r' :: 'u' :: 'e' :: cs => some (.bool true, cs)
    | 'f' :: 'a' :: 'l' :: 's' :: 'e' :: cs => some (.bool false, cs)
    | '"' :: cs => (stringTail [] cs).map fun p => (.string p.1, p.2)
    | '-' :: cs => (unsigned? true cs).map fun p => (.number p.1, p.2)
    | '[' :: cs =>
      match depth with
      | 0 => none
      | depth + 1 => (items ']' (value depth) cs).map fun p => (.array p.1, p.2)
    | '\x7b' :: cs =>
      match depth with
      | 0 => none
      | depth + 1 => (items '\x7d' (field (value depth)) cs).map fun p => (Value.ofFields p.1, p.2)
    | cs => (unsigned? false cs).map fun p => (.number p.1, p.2)

/-- The value a whole text holds. -/
def parse? (s : String) : Option Value :=
  match value 127 s.toList with
  | some (v, rest) => if (skipSpace rest).isEmpty then some v else none
  | none => none

end Workflow.Json
