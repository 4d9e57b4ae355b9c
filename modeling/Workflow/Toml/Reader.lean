import Workflow.Decimal.Reader
import Workflow.Text.Blank
import Workflow.Toml.Table

/-!
TOML texts as documents. Whole numbers have 64 bits with a sign; dates and times are checked, but
have no value here. Values nest less than 80 deep.
-/
namespace Workflow.Toml

/-- What is read, and the text after it. -/
abbrev Parser (α : Type) := List Char → Option (α × List Char)

def isSpace (c : Char) : Bool := c = ' ' || c = '\t'

def skipSpace (cs : List Char) : List Char := cs.dropWhile isSpace

/-- The characters of a comment. -/
def isComment (c : Char) : Bool := c = '\t' || (' ' ≤ c && c ≤ '\x7f') || '\x7f' < c

/-- Passes a comment, if there is one. -/
def skipComment : List Char → List Char
  | '#' :: cs => cs.dropWhile isComment
  | cs => cs

/-- Passes a line break. -/
def newline? : List Char → Option (List Char)
  | '\n' :: cs => some cs
  | '\r' :: '\n' :: cs => some cs
  | _ => none

/-- Passes the rest of a line; the text may end with it. -/
def lineEnd? (cs : List Char) : Option (List Char) :=
  let cs := skipComment (skipSpace cs)
  if cs.isEmpty then some [] else newline? cs

/-- Passes white space, comments and line breaks. -/
def skipLines (cs : List Char) : (fuel : Nat) → List Char
  | 0 => cs
  | fuel + 1 =>
    let cs := skipComment (skipSpace cs)
    match newline? cs with
    | some cs => skipLines cs fuel
    | none => cs

/-! ### Texts -/

def hexDigit? (c : Char) : Option Nat :=
  if c.isDigit then some (c.toNat - '0'.toNat)
  else if 'a' ≤ c ∧ c ≤ 'f' then some (c.toNat - 'a'.toNat + 10)
  else if 'A' ≤ c ∧ c ≤ 'F' then some (c.toNat - 'A'.toNat + 10)
  else none

def hexChar? (digits : Nat) : Parser Char := fun cs =>
  let ds := cs.take digits
  if ds.length < digits then none
  else
    (ds.foldlM (fun n c => (hexDigit? c).map (n * 16 + ·)) 0).bind fun n =>
      if h : n.isValidChar then some (Char.ofNatAux n h, cs.drop digits) else none

def escape? : Parser Char
  | 'b' :: cs => some ('\x08', cs)
  | 't' :: cs => some ('\t', cs)
  | 'n' :: cs => some ('\n', cs)
  | 'f' :: cs => some ('\x0c', cs)
  | 'r' :: cs => some ('\r', cs)
  | '"' :: cs => some ('"', cs)
  | '\\' :: cs => some ('\\', cs)
  | 'u' :: cs => hexChar? 4 cs
  | 'U' :: cs => hexChar? 8 cs
  | _ => none

/-- The characters that stand for themselves in a text on one line, its quotes and escapes aside. -/
def isPlain (c : Char) : Bool := c = '\t' || (' ' ≤ c && c ≠ '\x7f')

/-- A text on one line, behind its opening quote. -/
def basic (text : List Char) (fuel : Nat) : Parser (List Char) := fun cs =>
  match fuel, cs with
  | 0, _ => none
  | _, '"' :: cs => some (text, cs)
  | fuel + 1, '\\' :: cs =>
    match escape? cs with
    | some (c, cs) => basic (text ++ [c]) fuel cs
    | none => none
  | fuel + 1, c :: cs => if isPlain c then basic (text ++ [c]) fuel cs else none
  | _, [] => none

def literal (cs : List Char) : Option (List Char × List Char) :=
  let text := cs.takeWhile fun c => isPlain c && c ≠ '\''
  match cs.drop text.length with
  | '\'' :: rest => some (text, rest)
  | _ => none

/-- Passes the white space behind a backslash at the end of a line. -/
def skipJoint (cs : List Char) : Option (List Char) :=
  (newline? (skipSpace cs)).map fun cs => cs.dropWhile fun c => isSpace c || c = '\n' || c = '\r'

/-- How many quotes close a text of several lines that has `n` of them: three, of which two more may
stand before. -/
def closing? (n : Nat) : Option Nat := if 3 ≤ n ∧ n ≤ 5 then some (n - 3) else none

/-- Whether every carriage return stands before a line feed. -/
def returnsMatched : List Char → Bool
  | '\r' :: '\n' :: cs => returnsMatched cs
  | '\r' :: _ => false
  | _ :: cs => returnsMatched cs
  | [] => true

/-- A text of several lines between three quotes, behind the first three. -/
def multiline (quote : Char) (text : List Char) (fuel : Nat) : Parser (List Char) := fun cs =>
  match fuel, cs with
  | 0, _ => none
  | _, [] => none
  | fuel + 1, c :: rest =>
    if c = quote then
      let n := (cs.takeWhile (· = quote)).length
      if n < 3 then multiline quote (text ++ List.replicate n quote) fuel (cs.drop n)
      else (closing? (min n 5)).map fun k => (text ++ List.replicate k quote, cs.drop (min n 5))
    else if c = '\\' ∧ quote = '"' then
      match skipJoint rest with
      | some cs => if returnsMatched (rest.take (rest.length - cs.length))
          then multiline quote text fuel cs else none
      | none =>
        match escape? rest with
        | some (d, cs) => multiline quote (text ++ [d]) fuel cs
        | none => none
    else match newline? cs with
      | some cs => multiline quote (text ++ ['\n']) fuel cs
      | none => if isPlain c then multiline quote (text ++ [c]) fuel rest else none

/-- A line break right behind the opening quotes does not count. -/
def multilineText (quote : Char) (cs : List Char) : Option (List Char × List Char) :=
  let cs := (newline? cs).getD cs
  multiline quote [] (cs.length + 1) cs

/-- A text on one line in either kind of quotes. -/
def quoted? : Parser (List Char)
  | '"' :: cs => basic [] (cs.length + 1) cs
  | '\'' :: cs => literal cs
  | _ => none

def string? : Parser (List Char)
  | '"' :: '"' :: '"' :: cs => multilineText '"' cs
  | '\'' :: '\'' :: '\'' :: cs => multilineText '\'' cs
  | cs => quoted? cs

/-! ### Numbers, dates and times -/

/-- Digits that single underscores may stand between. -/
def digits (isDigit : Char → Bool) : List Char → List Char × List Char
  | c :: '_' :: d :: cs =>
    if isDigit c then
      if isDigit d then
        let (ds, rest) := digits isDigit (d :: cs)
        (c :: ds, rest)
      else ([c], '_' :: d :: cs)
    else ([], c :: '_' :: d :: cs)
  | c :: cs =>
    if isDigit c then
      let (ds, rest) := digits isDigit cs
      (c :: ds, rest)
    else ([], c :: cs)
  | [] => ([], [])

def inBase (base : Nat) (c : Char) : Bool := (hexDigit? c).any (· < base)

def valueIn (base : Nat) (ds : List Char) : Nat :=
  ds.foldl (fun n c => n * base + (hexDigit? c).getD 0) 0

def integer? (n : Int) : Option Item :=
  if Int64.minValue.toInt ≤ n ∧ n ≤ Int64.maxValue.toInt then
    some (.leaf (.ofScalar (.number (.int n))))
  else none

def double (x : Float) : Item := .leaf (.ofScalar (.number (.double x)))

def based? (base : Nat) (cs : List Char) : Option (Item × List Char) :=
  match digits (inBase base) cs with
  | ([], _) => none
  | (ds, rest) => (integer? (valueIn base ds)).map fun i => (i, rest)

/-- The exponent of a number, if it has one. -/
def exponent? : List Char → Option (Option Int × List Char)
  | e :: cs =>
    if e = 'e' ∨ e = 'E' then
      let (minus, cs) := match cs with
        | '+' :: cs => (false, cs)
        | '-' :: cs => (true, cs)
        | cs => (false, cs)
      match digits Char.isDigit cs with
      | ([], _) => none
      | (ds, rest) =>
        let n : Int := Decimal.digitsValue ds
        some (some (if minus then -n else n), rest)
    else some (none, e :: cs)
  | [] => some (none, [])

/-- A decimal number behind its sign. -/
def decimal? (minus : Bool) (cs : List Char) : Option (Item × List Char) := do
  let (whole, rest) := digits Char.isDigit cs
  if whole.isEmpty ∨ (whole.head? = some '0' ∧ 1 < whole.length) then none
  else
    let (part, rest) ← match rest with
      | '.' :: rest =>
        match digits Char.isDigit rest with
        | ([], _) => none
        | (ds, rest) => some (some ds, rest)
      | rest => some (none, rest)
    let (e, rest) ← exponent? rest
    match part, e with
    | none, none =>
      let n : Int := Decimal.digitsValue whole
      (integer? (if minus then -n else n)).map fun i => (i, rest)
    | _, _ =>
      let part := part.getD []
      match Decimal.scientific? (Decimal.digitsValue (whole ++ part)) (e.getD 0 - part.length) with
      | some x => some (double (if minus then -x else x), rest)
      | none => if minus then some (double (-1 / 0), rest) else none

def keyword? (word : String) (cs : List Char) : Option (List Char) :=
  if word.toList.isPrefixOf cs then some (cs.drop word.length) else none

def number? : Parser Item := fun cs =>
  match cs with
  | '0' :: 'x' :: cs => based? 16 cs
  | '0' :: 'o' :: cs => based? 8 cs
  | '0' :: 'b' :: cs => based? 2 cs
  | _ =>
    let (minus, body) := match cs with
      | '+' :: cs => (false, cs)
      | '-' :: cs => (true, cs)
      | cs => (false, cs)
    match keyword? "inf" body, keyword? "nan" body with
    | some rest, _ => some (double (if minus then -1 / 0 else 1 / 0), rest)
    | none, some rest => some (double (0 / 0), rest)
    | none, none => decimal? minus body

/-- A number of exactly so many digits between two bounds. -/
def fixed? (width lo hi : Nat) : Parser Nat := fun cs =>
  let ds := cs.take width
  if ds.length = width ∧ ds.all Char.isDigit then
    let n := Decimal.digitsValue ds
    if lo ≤ n ∧ n ≤ hi then some (n, cs.drop width) else none
  else none

def mark? (c : Char) : List Char → Option (List Char)
  | d :: cs => if c = d then some cs else none
  | [] => none

def isLeap (year : Nat) : Bool := year % 4 = 0 && (year % 100 ≠ 0 || year % 400 = 0)

def lastDay (year month : Nat) : Nat :=
  if month = 2 then (if isLeap year then 29 else 28)
  else if month = 4 || month = 6 || month = 9 || month = 11 then 30
  else 31

/-- Passes a date. -/
def date? (cs : List Char) : Option (List Char) := do
  let (year, cs) ← fixed? 4 0 9999 cs
  let cs ← mark? '-' cs
  let (month, cs) ← fixed? 2 1 12 cs
  let cs ← mark? '-' cs
  let (_, cs) ← fixed? 2 1 (lastDay year month) cs
  some cs

/-- Passes a time of day. -/
def time? (cs : List Char) : Option (List Char) := do
  let (_, cs) ← fixed? 2 0 23 cs
  let cs ← mark? ':' cs
  let (_, cs) ← fixed? 2 0 59 cs
  let cs ← mark? ':' cs
  let (_, cs) ← fixed? 2 0 60 cs
  match cs with
  | '.' :: c :: cs => if c.isDigit then some (cs.dropWhile Char.isDigit) else none
  | '.' :: [] => none
  | cs => some cs

/-- Passes a distance from UTC, if there is one. -/
def offset? (cs : List Char) : Option (List Char) :=
  match cs with
  | 'Z' :: cs | 'z' :: cs => some cs
  | '+' :: rest | '-' :: rest => do
    let (_, rest) ← fixed? 2 0 23 rest
    let rest ← mark? ':' rest
    let (_, rest) ← fixed? 2 0 59 rest
    some rest
  | cs => some cs

/-- Passes a date, a time of day or both. -/
def dateTime? (cs : List Char) : Option (List Char) :=
  match cs with
  | _ :: _ :: ':' :: _ => time? cs
  | _ => do
    let rest ← date? cs
    match rest with
    | t :: a :: b :: c :: _ =>
      if (t = 'T' ∨ t = 't') ∨ (t = ' ' ∧ a.isDigit ∧ b.isDigit ∧ c = ':') then do
        let rest ← time? (rest.drop 1)
        offset? rest
      else some rest
    | rest => some rest

/-- Whether a date or a time of day begins here. -/
def looksLikeDate (cs : List Char) : Bool :=
  match cs with
  | a :: b :: c :: d :: e :: _ =>
    a.isDigit && b.isDigit && (c = ':' || (c.isDigit && d.isDigit && e = '-'))
  | a :: b :: ':' :: _ => a.isDigit && b.isDigit
  | _ => false

/-- A date or time, which is there and is neither text nor number. -/
def moment : Item := .leaf ⟨none, none, none, some false, false⟩

/-! ### Keys and values -/

def isBare (c : Char) : Bool := c.isAlphanum || c = '_' || c = '-'

def simpleKey? (cs : List Char) : Option (String × List Char) :=
  match quoted? cs with
  | some (text, rest) => some (String.ofList text, rest)
  | none =>
    let name := cs.takeWhile isBare
    if name.isEmpty then none else some (String.ofList name, cs.drop name.length)

/-- A key's parts, and the text behind it without white space. -/
def key? (fuel : Nat) : Parser (List String) := fun cs =>
  match fuel with
  | 0 => none
  | fuel + 1 =>
    match simpleKey? (skipSpace cs) with
    | none => none
    | some (k, rest) =>
      match skipSpace rest with
      | '.' :: rest => (key? fuel rest).map fun p => (k :: p.1, p.2)
      | rest => some ([k], rest)

/-- The deepest nesting of values, and the longest key. -/
def depthLimit : Nat := 80

/-- Adds a value under a key of one or more parts. -/
def putAt (fields : Fields) (path : List String) (item : Item) : Option Fields :=
  match path.getLast? with
  | some k => fields.put false (1 < path.length) k item path.dropLast
  | none => none

mutual

def value (depth fuel : Nat) : Parser Item := fun cs =>
  match fuel with
  | 0 => none
  | fuel + 1 =>
    match cs with
    | '[' :: rest => if depth = 0 then none else items (depth - 1) fuel rest
    | '\x7b' :: rest => if depth = 0 then none else inlineTable (depth - 1) fuel rest
    | 't' :: _ => (keyword? "true" cs).map fun rest => (.leaf (.ofScalar (.bool true)), rest)
    | 'f' :: _ => (keyword? "false" cs).map fun rest => (.leaf (.ofScalar (.bool false)), rest)
    | _ =>
      if cs.head? = some '"' ∨ cs.head? = some '\'' then
        (string? cs).map fun p => (.leaf (.ofScalar (.text (String.ofList p.1))), p.2)
      else if looksLikeDate cs then (dateTime? cs).map fun rest => (moment, rest)
      else number? cs

/-- The items of an array behind its opening bracket, or behind a comma. -/
def items (depth fuel : Nat) : Parser Item := fun cs =>
  match fuel with
  | 0 => none
  | fuel + 1 =>
    match skipLines cs (cs.length + 1) with
    | ']' :: rest => some (.array [], rest)
    | cs =>
      match value depth fuel cs with
      | none => none
      | some (i, cs) =>
        match skipLines cs (cs.length + 1) with
        | ']' :: rest => some (.array [i], rest)
        | ',' :: rest =>
          match items depth fuel rest with
          | some (.array is, rest) => some (.array (i :: is), rest)
          | _ => none
        | _ => none

def inlineTable (depth fuel : Nat) : Parser Item := fun cs =>
  match fuel with
  | 0 => none
  | fuel + 1 =>
    match skipSpace cs with
    | '\x7d' :: rest => some (.inline [], rest)
    | cs => (pairs depth fuel [] cs).map fun p => (.inline p.1, p.2)

/-- The pairs of an inline table, added to those before. -/
def pairs (depth fuel : Nat) (before : Fields) : Parser Fields := fun cs =>
  match fuel with
  | 0 => none
  | fuel + 1 =>
    match key? depthLimit cs with
    | some (path, '=' :: cs) =>
      match value depth fuel (skipSpace cs) with
      | none => none
      | some (item, cs) =>
        match putAt before path item, skipSpace cs with
        | some fields, '\x7d' :: rest => some (fields, rest)
        | some fields, ',' :: rest => pairs depth fuel fields rest
        | _, _ => none
    | _ => none

end

/-! ### Texts of several lines -/

structure Draft where
  root : Fields
  /-- The table of the last header. -/
  current : List String

namespace Draft

def header? (d : Draft) (path : List String) (put : String → Fields → Option Fields) : Option Draft :=
  match path.getLast? with
  | some k => (d.root.change (put k) path.dropLast).map fun root => ⟨root, path⟩
  | none => none

/-- One line: a header, a pair or nothing, and perhaps a comment. -/
def line? (d : Draft) (cs : List Char) : Option (Draft × List Char) :=
  match skipSpace cs with
  | '[' :: '[' :: cs => do
    let (path, cs) ← key? depthLimit cs
    let cs ← (mark? ']' cs).bind (mark? ']')
    let cs ← lineEnd? cs
    let d ← d.header? path Fields.openArray
    some (d, cs)
  | '[' :: cs => do
    let (path, cs) ← key? depthLimit cs
    let cs ← mark? ']' cs
    let cs ← lineEnd? cs
    let d ← d.header? path Fields.openTable
    some (d, cs)
  | cs =>
    match lineEnd? cs with
    | some cs => some (d, cs)
    | none => do
      let (path, cs) ← key? depthLimit cs
      let cs ← mark? '=' cs
      let cs := skipSpace cs
      let (item, cs) ← value depthLimit (cs.length + 1) cs
      let cs ← lineEnd? cs
      let root ← d.root.change (fun fields => putAt fields path item) d.current
      some (⟨root, d.current⟩, cs)

def lines? (d : Draft) (cs : List Char) : (fuel : Nat) → Option Draft
  | 0 => none
  | fuel + 1 =>
    if cs.isEmpty then some d
    else match d.line? cs with
      | some (d, cs) => lines? d cs fuel
      | none => none

end Draft

/-- A whole text, whose first character may be a byte order mark. -/
def read? (text : String) : Option Document :=
  let cs := match text.toList with
    | '\ufeff' :: cs => cs
    | cs => cs
  (Draft.lines? ⟨[], []⟩ cs (cs.length + 1)).map fun d => document (.table false false d.root)

end Workflow.Toml
