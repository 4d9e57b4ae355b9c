import Workflow.Yaml.Scalar

/-!
The tokens of a YAML text. Marks that the text only implies by its layout become tokens as well:
where a collection of lines begins and ends, and where a key stands before its colon.
-/
namespace Workflow.Yaml

inductive Token where
  | versionDirective (major minor : Nat)
  | tagDirective (handle tagStart : String)
  | documentStart
  | documentEnd
  /-- A list or a mapping of lines. -/
  | blockSequence
  | blockMapping
  | blockEnd
  | flowSequence
  | flowSequenceEnd
  | flowMapping
  | flowMappingEnd
  | blockEntry
  | flowEntry
  | key
  | value
  | alias (name : String)
  | anchor (name : String)
  | tag (handle suffix : String)
  | scalar (text : String) (style : Style)
deriving DecidableEq, Repr

namespace Token

/-! ### Directives, anchors and tags -/

def isNameChar (c : Char) : Bool := c.isAlphanum || c = '_' || c = '-'

/-- A number of at most nine digits. -/
def versionNumber? (c : Cursor) : Option (Nat × Cursor) :=
  let ds := c.rest.takeWhile Char.isDigit
  if ds.isEmpty ∨ 9 < ds.length then none
  else some (ds.foldl (fun n d => n * 10 + (d.toNat - '0'.toNat)) 0, c.skip ds.length)

def isUriChar (inside : Bool) (c : Char) : Bool :=
  isNameChar c ||
    [';', '/', '?', ':', '@', '&', '=', '+', '$', '.', '%', '!', '~', '*', '\'', '(', ')'].contains c ||
    (inside && [',', '[', ']'].contains c)

/-- The byte of two hexadecimal digits behind a percent sign. -/
def percentByte? : List Char → Option UInt8
  | '%' :: a :: b :: _ =>
    match hexDigit? a, hexDigit? b with
    | some a, some b => some (UInt8.ofNat (a * 16 + b))
    | _, _ => none
  | _ => none

/-- The characters of a tag, with hexadecimal bytes decoded. -/
def uriBytes (inside : Bool) (bytes : ByteArray) (c : Cursor) :
    (fuel : Nat) → Option (ByteArray × Cursor)
  | 0 => none
  | fuel + 1 =>
    match c.rest with
    | [] => some (bytes, c)
    | d :: _ =>
      if !isUriChar inside d then some (bytes, c)
      else if d = '%' then
        match percentByte? c.rest with
        | some b => uriBytes inside (bytes.push b) (c.skip 3) fuel
        | none => none
      else uriBytes inside (bytes ++ (String.singleton d).toUTF8) (c.skip 1) fuel

def uri? (inside : Bool) (c : Cursor) : Option (String × Cursor) :=
  match uriBytes inside .empty c (c.rest.length + 1) with
  | some (bytes, c) => (String.fromUTF8? bytes).map fun s => (s, c)
  | none => none

/-- A tag's handle: `!`, and perhaps a name and a second `!`. -/
def handle? (c : Cursor) : Option (String × Cursor) :=
  match c.rest with
  | '!' :: rest =>
    let name := rest.takeWhile isNameChar
    match rest.drop name.length with
    | '!' :: _ => some (String.ofList ('!' :: name ++ ['!']), c.skip (name.length + 2))
    | _ => some (String.ofList ('!' :: name), c.skip (name.length + 1))
  | _ => none

/-- Passes the rest of a line that may hold a comment. -/
def lineEnd? (c : Cursor) : Option Cursor :=
  let c := c.skipWhile isGap
  let c := if c.head? = some '#' then c.skipWhile fun d => !isBreak d else c
  if endsLine c.rest then some c.skipBreak else none

/-- A directive; the cursor stands behind the percent sign. -/
def directive? (c : Cursor) : Option (Token × Cursor) := do
  let name := c.rest.takeWhile isNameChar
  let c := c.skip name.length
  if !endsWord c.rest then none
  else if name = "YAML".toList then
    let (major, c) ← versionNumber? (c.skipWhile isGap)
    if c.head? ≠ some '.' then none
    else
      let (minor, c) ← versionNumber? (c.skip 1)
      let c ← lineEnd? c
      some (.versionDirective major minor, c)
  else if name = "TAG".toList then
    let (handle, c) ← handle? (c.skipWhile isGap)
    if handle ≠ "!" ∧ !(handle.endsWith "!") then none
    else if !c.head?.any isGap then none
    else
      let (tagStart, c) ← uri? true (c.skipWhile isGap)
      if tagStart.isEmpty ∨ !endsWord c.rest then none
      else
        let c ← lineEnd? c
        some (.tagDirective handle tagStart, c)
  else none

/-- The name of an anchor or alias; the cursor stands behind its mark. -/
def anchorName? (c : Cursor) : Option (String × Cursor) :=
  let name := c.rest.takeWhile isNameChar
  let c := c.skip name.length
  if name.isEmpty then none
  else if endsWord c.rest || ['?', ':', ',', ']', '}', '%', '@', '`'].contains (c.rest.headD ' ') then
    some (String.ofList name, c)
  else none

/-- A tag; the cursor stands on its first `!`. -/
def tag? (inFlow : Bool) (c : Cursor) : Option (Token × Cursor) := do
  let (token, c) ← match c.rest with
    | '!' :: '<' :: _ => do
      let (suffix, c) ← uri? true (c.skip 2)
      if suffix.isEmpty ∨ c.head? ≠ some '>' then none
      else some (Token.tag "" suffix, c.skip 1)
    | _ => do
      let (handle, c) ← handle? c
      if handle ≠ "!" ∧ handle.endsWith "!" then
        let (suffix, c) ← uri? false c
        if suffix.isEmpty then none else some (Token.tag handle suffix, c)
      else
        let (suffix, c) ← uri? false c
        let suffix := String.ofList (handle.toList.drop 1) ++ suffix
        if suffix.isEmpty then some (Token.tag "" "!", c) else some (Token.tag "!" suffix, c)
  if endsWord c.rest || (inFlow && c.head? = some ',') then some (token, c) else none

/-! ### Layout -/

/-- A place where a key may have begun whose colon is still to come. -/
structure PendingKey where
  /-- Whether nothing else than a key can stand there. -/
  required : Bool
  /-- How many tokens stand before it. -/
  position : Nat
  index : Nat
  line : Nat
  column : Nat
deriving Repr

structure Layout where
  cursor : Cursor
  tokens : Array Token
  /-- The columns of the open collections of lines, innermost first. -/
  indents : List Nat
  /-- Whether a key may begin here. -/
  keyAllowed : Bool
  /-- The pending key outside brackets, and those inside each open pair, innermost first. -/
  pending : List (Option PendingKey)

namespace Layout

def start (cs : List Char) : Layout := ⟨.start cs, #[], [], true, [none]⟩

def inFlow (s : Layout) : Bool := 1 < s.pending.length

def column (s : Layout) : Nat := s.cursor.column

def push (s : Layout) (t : Token) : Layout := { s with tokens := s.tokens.push t }

/-- Adds a token of so many characters. -/
def take (s : Layout) (t : Token) (length : Nat) : Layout :=
  { s with tokens := s.tokens.push t, cursor := s.cursor.skip length }

/-- Closes the collections of lines that lie further in than a column. -/
def closeBlocks (tokens : Array Token) (column : Nat) : List Nat → Array Token × List Nat
  | [] => (tokens, [])
  | n :: ns => if column < n then closeBlocks (tokens.push .blockEnd) column ns else (tokens, n :: ns)

def unroll (s : Layout) (column : Nat) : Layout :=
  if s.inFlow then s
  else
    let (tokens, indents) := closeBlocks s.tokens column s.indents
    { s with tokens, indents }

/-- Closes all collections of lines, unless brackets are open. -/
def unrollAll (s : Layout) : Layout :=
  if s.inFlow then s
  else { s with tokens := s.tokens ++ (s.indents.map fun _ => Token.blockEnd).toArray, indents := [] }

/-- Opens a collection of lines at a column that lies further in than the current one. -/
def roll (s : Layout) (column : Nat) (position : Nat) (t : Token) : Layout :=
  if !s.inFlow && s.indents.head?.all (· < column) then
    { s with indents := column :: s.indents, tokens := s.tokens.insertIdxIfInBounds position t }
  else s

/-- Gives up the pending key; a required one must not be given up. -/
def dropPending (s : Layout) : Option Layout :=
  match s.pending with
  | some k :: ks => if k.required then none else some { s with pending := none :: ks }
  | _ => some s

/-- Notes that a key may begin here. -/
def savePending (s : Layout) : Option Layout :=
  if !s.keyAllowed then some s
  else
    let required := !s.inFlow && s.indents.head? = some s.column
    let key : PendingKey :=
      ⟨required, s.tokens.size, s.cursor.index, s.cursor.line, s.cursor.column⟩
    s.dropPending.map fun s => { s with pending := some key :: s.pending.drop 1 }

/-- The most characters between the beginning of a key and its colon. -/
def keyReach : Nat := 1024

/-- Gives up the keys that the cursor has left behind. -/
def dropStale (c : Cursor) : List (Option PendingKey) → Option (List (Option PendingKey))
  | [] => some []
  | none :: ks => (dropStale c ks).map (none :: ·)
  | some k :: ks =>
    if k.line < c.line ∨ k.index + keyReach < c.index then
      if k.required then none else (dropStale c ks).map (none :: ·)
    else (dropStale c ks).map (some k :: ·)

/-- Passes white space and comments up to the next token. -/
def skipGap (s : Layout) : (fuel : Nat) → Layout
  | 0 => s
  | fuel + 1 =>
    let c := s.cursor
    let c := if c.column == 0 && c.head? = some '\ufeff' then c.skip 1 else c
    let c := c.skipWhile fun d => d = ' ' || ((s.inFlow || !s.keyAllowed) && d = '\t')
    let c := if c.head? = some '#' then c.skipWhile fun d => !isBreak d else c
    if c.head?.any isBreak then
      skipGap { s with cursor := c.skipBreak, keyAllowed := s.keyAllowed || !s.inFlow } fuel
    else { s with cursor := c }

/-- A mark that opens brackets. -/
def openFlow (s : Layout) (t : Token) : Option Layout :=
  s.savePending.map fun s => { s.take t 1 with pending := none :: s.pending, keyAllowed := true }

def closeFlow (s : Layout) (t : Token) : Option Layout :=
  s.dropPending.map fun s =>
    { s.take t 1 with
      pending := if s.inFlow then s.pending.drop 1 else s.pending
      keyAllowed := false }

/-- A mark that begins an entry of a list of lines, or a key of a mapping of lines. -/
def openLine (s : Layout) (collection mark : Token) (allowed : Bool) : Option Layout :=
  if !s.inFlow && !s.keyAllowed then none
  else
    let s := s.roll s.column s.tokens.size collection
    s.dropPending.map fun s => { s.take mark 1 with keyAllowed := allowed }

/-- A colon: behind a pending key, or at the beginning of a line. -/
def colon (s : Layout) : Option Layout :=
  match s.pending with
  | some k :: ks =>
    let s := { s with
      tokens := s.tokens.insertIdxIfInBounds k.position .key
      pending := none :: ks }
    let s := s.roll k.column k.position .blockMapping
    some { s.take .value 1 with keyAllowed := false }
  | _ =>
    if s.inFlow then some { s.take .value 1 with keyAllowed := false }
    else if !s.keyAllowed then none
    else
      let s := s.roll s.column s.tokens.size .blockMapping
      some { s.take .value 1 with keyAllowed := true }

/-- A mark of a document's beginning or end. -/
def documentMark (s : Layout) (t : Token) : Option Layout :=
  s.unrollAll.dropPending.map fun s => { s.take t 3 with keyAllowed := false }

def directive (s : Layout) : Option Layout := do
  let s ← s.unrollAll.dropPending
  let (t, c) ← directive? (s.cursor.skip 1)
  some { s.push t with cursor := c, keyAllowed := false }

/-- A token that may be part of a key, and where it ends. -/
def keyPart (s : Layout) (read : Cursor → Option (Token × Cursor)) : Option Layout := do
  let s ← s.savePending
  let (t, c) ← read s.cursor
  some { s.push t with cursor := c, keyAllowed := false }

def named (mark : String → Token) (c : Cursor) : Option (Token × Cursor) :=
  (anchorName? (c.skip 1)).map fun p => (mark p.1, p.2)

def quoted (double : Bool) (c : Cursor) : Option (Token × Cursor) :=
  (readQuoted double (c.skip 1)).map fun p =>
    (.scalar (String.ofList p.1) (if double then .double else .single), p.2)

def block (s : Layout) (isFolded : Bool) : Option Layout := do
  let s ← s.dropPending
  let (text, c) ← readBlock isFolded s.indents.head? (s.cursor.skip 1)
  let style := if isFolded then .folded else .literal
  some { s.push (.scalar (String.ofList text) style) with cursor := c, keyAllowed := true }

def plain (s : Layout) : Option Layout := do
  let s ← s.savePending
  let indent := match s.indents.head? with
    | some n => n + 1
    | none => 0
  let (text, broken, c) ← readPlain s.inFlow indent s.cursor
  some { s.push (.scalar (String.ofList text) .plain) with cursor := c, keyAllowed := broken }

/-- The characters that cannot begin a plain scalar. -/
def indicators : List Char :=
  ['-', '?', ':', ',', '[', ']', '{', '}', '#', '&', '*', '!', '|', '>', '\'', '"', '%', '@', '`']

/-- Whether a plain scalar begins with the character, of which more follow. -/
def beginsPlain (inFlow : Bool) (d : Char) (rest : List Char) : Bool :=
  !indicators.contains d || (d = '-' && !rest.head?.any isGap) ||
    (!inFlow && (d = '?' || d = ':') && !endsWord rest)

/-- The token that begins with the character at the cursor. -/
def token (s : Layout) (d : Char) (rest : List Char) : Option Layout :=
  let first := s.column == 0
  let mark := s.inFlow || endsWord rest
  if first && d = '%' then s.directive
  else if s.cursor.atDocumentMark then
    s.documentMark (if d = '-' then .documentStart else .documentEnd)
  else if d = '[' then s.openFlow .flowSequence
  else if d = '{' then s.openFlow .flowMapping
  else if d = ']' then s.closeFlow .flowSequenceEnd
  else if d = '}' then s.closeFlow .flowMappingEnd
  else if d = ',' then
    s.dropPending.map fun s => { s.take .flowEntry 1 with keyAllowed := true }
  else if d = '-' && endsWord rest then s.openLine .blockSequence .blockEntry true
  else if d = '?' && mark then s.openLine .blockMapping .key (!s.inFlow)
  else if d = ':' && mark then s.colon
  else if d = '*' then s.keyPart (named .alias)
  else if d = '&' then s.keyPart (named .anchor)
  else if d = '!' then s.keyPart (tag? s.inFlow)
  else if d = '|' && !s.inFlow then s.block false
  else if d = '>' && !s.inFlow then s.block true
  else if d = '\'' then s.keyPart (quoted false)
  else if d = '"' then s.keyPart (quoted true)
  else if beginsPlain s.inFlow d rest then s.plain
  else none

def tokensFrom (s : Layout) : (fuel : Nat) → Option (Array Token)
  | 0 => none
  | fuel + 1 =>
    let s := s.skipGap (s.cursor.rest.length + 1)
    match dropStale s.cursor s.pending with
    | none => none
    | some pending =>
      let s := { s with pending }
      match s.cursor.rest with
      | [] => s.unrollAll.dropPending.map (·.tokens)
      | d :: rest =>
        match (s.unroll s.column).token d rest with
        | none => none
        | some s => tokensFrom s fuel

end Layout

/-- The characters that a YAML text may hold. -/
def isPrintable (c : Char) : Bool :=
  let n := c.toNat
  n == 9 || n == 10 || n == 13 || (0x20 ≤ n && n ≤ 0x7E) || n == 0x85 ||
    (0xA0 ≤ n && n ≤ 0xFFFD) || 0x10000 ≤ n

/-- The tokens of a text, in order. -/
def ofText? (text : String) : Option (List Token) :=
  let cs := text.toList
  if cs.all isPrintable then
    ((Layout.start cs).tokensFrom (cs.length + 1)).map Array.toList
  else none

end Token

end Workflow.Yaml
