import Workflow.Files.Error
import Workflow.Files.Path

/-!
A tree of files and directories as a value. Written paths are followed step by step from the root,
so that a step beyond a file is an error.
-/
namespace Workflow.Files

inductive Entry where
  | directory
  | text (content : String)
  /-- A file whose bytes are no text. -/
  | binary
deriving DecidableEq, Repr

/-- The root is a directory that is not listed. -/
structure Tree where
  entries : Dict Path Entry
deriving DecidableEq, Repr

namespace Tree

def empty : Tree := ⟨∅⟩

instance : EmptyCollection Tree := ⟨empty⟩
instance : Inhabited Tree := ⟨empty⟩

def entry? (t : Tree) (p : Path) : Option Entry :=
  if p.isEmpty then some .directory else t.entries.get? p

/-- Goes on from a place along steps; the last one may name what does not exist. -/
def follow (t : Tree) (place : Path) : List String → Except FileError Path
  | [] => .ok place
  | step :: steps =>
    match t.entry? place with
    | none => .error .notFound
    | some .directory =>
      if step = "" ∨ step = "." then follow t place steps
      else if step = ".." then follow t place.dropLast steps
      else follow t (place ++ [step]) steps
    | some _ => .error .notDirectory

/-- The place that a written path leads to. -/
def resolve (t : Tree) (s : String) : Except FileError Path :=
  if s.isEmpty then .error .notFound else t.follow [] (Path.steps s)

def find? (t : Tree) (s : String) : Option Entry :=
  match t.resolve s with
  | .ok p => t.entry? p
  | .error _ => none

def isDirectory (t : Tree) (s : String) : Bool := t.find? s == some .directory

def read (t : Tree) (s : String) : Except FileError String := do
  let p ← t.resolve s
  match t.entry? p with
  | none => .error .notFound
  | some .directory => .error .isDirectory
  | some .binary => .error .notText
  | some (.text content) => .ok content

/-- Makes the directories along steps that are not there yet. -/
def makeAll (t : Tree) (place : Path) : List String → Except FileError Tree
  | [] => .ok t
  | step :: steps =>
    if step = "" ∨ step = "." then makeAll t place steps
    else if step = ".." then makeAll t place.dropLast steps
    else
      let p := place ++ [step]
      match t.entry? p with
      | none => makeAll ⟨t.entries.insert p .directory⟩ p steps
      | some .directory => makeAll t p steps
      | some _ => .error .notDirectory

def makeDirectory (t : Tree) (s : String) : Except FileError Tree := t.makeAll [] (Path.steps s)

/-- Writes a file into a directory that exists, over an earlier file. -/
def write (t : Tree) (s : String) (content : Entry) : Except FileError Tree := do
  let p ← t.resolve s
  match t.entry? p with
  | some .directory => .error .isDirectory
  | _ => .ok ⟨t.entries.insert p content⟩

/-- Writes a file, and makes the directories above it first. -/
def place (t : Tree) (s : String) (content : Entry) : Except FileError Tree := do
  let t ← t.makeAll [] (Path.steps s).dropLast
  t.write s content

/-- Everything below a place, each with the steps that lead there, in order. -/
def below (t : Tree) (p : Path) : List (Path × Entry) :=
  t.entries.entries.filterMap fun e =>
    if p.isPrefixOf e.1 && e.1 != p then some (e.1.drop p.length, e.2) else none

end Tree

end Workflow.Files
