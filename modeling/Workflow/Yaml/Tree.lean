import Workflow.Yaml.Token

/-!
The nodes of a YAML text: scalars, sequences and mappings, with tags written out and aliases put in
place. An alias inside the very node that it names cannot be put in place, and stays as `loop`.
-/
namespace Workflow.Yaml

inductive Tree where
  | scalar (tag : Option String) (text : String) (style : Style)
  | sequence (tag : Option String) (items : List Tree)
  | mapping (tag : Option String) (pairs : List (Tree × Tree))
  | loop
deriving Repr

namespace Tree

/-- A scalar of which nothing is written. -/
def empty : Tree := .scalar none "" .plain

/-- The nodes named so far, those that are still open as `loop`, and the handles of tags. -/
structure Names where
  anchors : List (String × Tree)
  handles : List (String × String)

/-- What is read, the names known after it, and the tokens behind it. -/
abbrev Reader (α : Type) := Names → List Token → Option (α × Names × List Token)

def standardHandles : List (String × String) := [("!", "!"), ("!!", "tag:yaml.org,2002:")]

def fullTag? (names : Names) : Option (String × String) → Option (Option String)
  | none => some none
  | some ("", suffix) => some (some suffix)
  | some (handle, suffix) =>
    (names.handles.lookup handle).map fun start => some (start ++ suffix)

/-- The anchor and the tag before a node, in either order. -/
def properties (ts : List Token) : Option String × Option (String × String) × List Token :=
  match ts with
  | .anchor a :: .tag h s :: ts => (some a, some (h, s), ts)
  | .tag h s :: .anchor a :: ts => (some a, some (h, s), ts)
  | .anchor a :: ts => (some a, none, ts)
  | .tag h s :: ts => (none, some (h, s), ts)
  | ts => (none, none, ts)

def named (anchor : Option String) (t : Tree) (names : Names) : Names :=
  match anchor with
  | some a => { names with anchors := (a, t) :: names.anchors }
  | none => names

/-- A scalar's tag; the tag `!` only says that it has none of its own. -/
def scalarTag (tag : Option String) : Option String := if tag = some "!" then none else tag

/-- Whether a node is left out before this token, given the tokens that close its place. -/
def isMissing (closers : List Token) (ts : List Token) : Bool :=
  match ts with
  | [] => true
  | t :: _ => closers.contains t

mutual

/-- A node. Collections of lines can stand only where `inBlock` is set, and a list that is no
further in than the mapping around it only where `indentless` is. -/
def node (inBlock indentless : Bool) (fuel : Nat) : Reader Tree := fun names ts =>
  match fuel with
  | 0 => none
  | fuel + 1 =>
    match ts with
    | .alias a :: ts => (names.anchors.lookup a).map fun t => (t, names, ts)
    | _ =>
      let (anchor, tag, rest) := properties ts
      match fullTag? names tag with
      | none => none
      | some tag =>
        let opened := named anchor .loop names
        let closed (t : Tree) (names : Names) (ts : List Token) :=
          some (t, named anchor t names, ts)
        match rest with
        | .blockEntry :: _ =>
          if !indentless then none
          else match entries true fuel opened rest with
            | some (items, names, ts) => closed (.sequence tag items) names ts
            | none => none
        | .scalar text style :: ts => closed (.scalar (scalarTag tag) text style) names ts
        | .flowSequence :: ts =>
          match flowItems true fuel opened ts with
          | some (items, names, ts) => closed (.sequence tag items) names ts
          | none => none
        | .flowMapping :: ts =>
          match flowPairs true fuel opened ts with
          | some (pairs, names, ts) => closed (.mapping tag pairs) names ts
          | none => none
        | .blockSequence :: ts =>
          if !inBlock then none
          else match entries false fuel opened ts with
            | some (items, names, ts) => closed (.sequence tag items) names ts
            | none => none
        | .blockMapping :: ts =>
          if !inBlock then none
          else match linePairs fuel opened ts with
            | some (pairs, names, ts) => closed (.mapping tag pairs) names ts
            | none => none
        | ts =>
          if anchor.isNone && tag.isNone then none
          else closed (.scalar (scalarTag tag) "" .plain) names ts

/-- The entries of a list of lines; an `indentless` one ends without a mark. -/
def entries (indentless : Bool) (fuel : Nat) : Reader (List Tree) := fun names ts =>
  match fuel with
  | 0 => none
  | fuel + 1 =>
    match ts with
    | .blockEntry :: ts =>
      let closers : List Token :=
        if indentless then [.blockEntry, .key, .value, .blockEnd] else [.blockEntry, .blockEnd]
      match if isMissing closers ts then some (empty, names, ts) else node true false fuel names ts with
      | none => none
      | some (item, names, ts) =>
        match entries indentless fuel names ts with
        | some (items, names, ts) => some (item :: items, names, ts)
        | none => none
    | .blockEnd :: rest => some ([], names, if indentless then ts else rest)
    | ts => if indentless then some ([], names, ts) else none

/-- The pairs of a mapping of lines. -/
def linePairs (fuel : Nat) : Reader (List (Tree × Tree)) := fun names ts =>
  match fuel with
  | 0 => none
  | fuel + 1 =>
    match ts with
    | .key :: ts =>
      match
        if isMissing [.key, .value, .blockEnd] ts then some (empty, names, ts)
        else node true true fuel names ts with
      | none => none
      | some (key, names, ts) =>
        match lineValue fuel names ts with
        | none => none
        | some (value, names, ts) =>
          match linePairs fuel names ts with
          | some (pairs, names, ts) => some ((key, value) :: pairs, names, ts)
          | none => none
    | .blockEnd :: ts => some ([], names, ts)
    | _ => none

def lineValue (fuel : Nat) : Reader Tree := fun names ts =>
  match fuel with
  | 0 => none
  | fuel + 1 =>
    match ts with
    | .value :: ts =>
      if isMissing [.key, .value, .blockEnd] ts then some (empty, names, ts)
      else node true true fuel names ts
    | ts => some (empty, names, ts)

/-- The items between square brackets, of which each but the first follows a comma. An item may be
a single pair. -/
def flowItems (first : Bool) (fuel : Nat) : Reader (List Tree) := fun names ts =>
  match fuel with
  | 0 => none
  | fuel + 1 =>
    match ts with
    | .flowSequenceEnd :: ts => some ([], names, ts)
    | ts =>
      match if first then some ts else afterComma? ts with
      | none => none
      | some (.flowSequenceEnd :: ts) => some ([], names, ts)
      | some ts =>
        match flowItem fuel names ts with
        | none => none
        | some (item, names, ts) =>
          match flowItems false fuel names ts with
          | some (items, names, ts) => some (item :: items, names, ts)
          | none => none

def flowItem (fuel : Nat) : Reader Tree := fun names ts =>
  match fuel with
  | 0 => none
  | fuel + 1 =>
    match ts with
    | .key :: ts =>
      if isMissing [.value, .flowEntry, .flowSequenceEnd] ts then
        match flowValue .flowSequenceEnd fuel names (ts.drop 1) with
        | some (value, names, ts) => some (.mapping none [(empty, value)], names, ts)
        | none => none
      else
        match node false false fuel names ts with
        | none => none
        | some (key, names, ts) =>
          match flowValue .flowSequenceEnd fuel names ts with
          | some (value, names, ts) => some (.mapping none [(key, value)], names, ts)
          | none => none
    | ts => node false false fuel names ts

/-- The value behind a colon, or an empty one. -/
def flowValue (closer : Token) (fuel : Nat) : Reader Tree := fun names ts =>
  match fuel with
  | 0 => none
  | fuel + 1 =>
    match ts with
    | .value :: ts =>
      if isMissing [.flowEntry, closer] ts then some (empty, names, ts)
      else node false false fuel names ts
    | ts => some (empty, names, ts)

/-- The pairs between braces. -/
def flowPairs (first : Bool) (fuel : Nat) : Reader (List (Tree × Tree)) := fun names ts =>
  match fuel with
  | 0 => none
  | fuel + 1 =>
    match ts with
    | .flowMappingEnd :: ts => some ([], names, ts)
    | ts =>
      match if first then some ts else afterComma? ts with
      | none => none
      | some (.flowMappingEnd :: ts) => some ([], names, ts)
      | some ts =>
        match flowPair fuel names ts with
        | none => none
        | some (pair, names, ts) =>
          match flowPairs false fuel names ts with
          | some (pairs, names, ts) => some (pair :: pairs, names, ts)
          | none => none

/-- A pair between braces; without a mark for its key it has no value. -/
def flowPair (fuel : Nat) : Reader (Tree × Tree) := fun names ts =>
  match fuel with
  | 0 => none
  | fuel + 1 =>
    match ts with
    | .key :: ts =>
      match
        if isMissing [.value, .flowEntry, .flowMappingEnd] ts then some (empty, names, ts)
        else node false false fuel names ts with
      | none => none
      | some (key, names, ts) =>
        match flowValue .flowMappingEnd fuel names ts with
        | some (value, names, ts) => some ((key, value), names, ts)
        | none => none
    | ts =>
      match node false false fuel names ts with
      | some (key, names, ts) => some ((key, empty), names, ts)
      | none => none

def afterComma? : List Token → Option (List Token)
  | .flowEntry :: ts => some ts
  | _ => none

end

/-- The directives before a document: at most one version, which is 1.1 or 1.2, and handles that
differ from one another. -/
def directives (version : Bool) (handles : List (String × String)) :
    List Token → Option (Bool × List (String × String) × List Token)
  | .versionDirective major minor :: ts =>
    if version || major != 1 || (minor != 1 && minor != 2) then none
    else directives true handles ts
  | .tagDirective handle start :: ts =>
    if handles.any fun h => h.1 == handle then none
    else directives version (handles ++ [(handle, start)]) ts
  | ts => some (version || !handles.isEmpty, handles, ts)

/-- The tokens of a document's root node, and the handles declared for it. -/
def opening (ts : List Token) : Option (List (String × String) × List Token) :=
  match directives false [] ts with
  | none => none
  | some (_, handles, .documentStart :: ts) => some (handles ++ standardHandles, ts)
  | some (declared, handles, ts) => if declared then none else some (handles ++ standardHandles, ts)

/-- The root node of a text that holds one document. -/
def ofTokens? (ts : List Token) : Option Tree :=
  if ts.isEmpty then none
  else
    match opening ts with
    | none => none
    | some (handles, ts) =>
      match
        if isMissing [.documentStart, .documentEnd] ts then some (empty, ⟨[], handles⟩, ts)
        else node true false (4 * ts.length + 4) ⟨[], handles⟩ ts with
      | none => none
      | some (root, _, ts) =>
        if (ts.dropWhile (· == .documentEnd)).isEmpty then some root else none

def ofText? (text : String) : Option Tree := (Token.ofText? text).bind ofTokens?

end Tree

end Workflow.Yaml
