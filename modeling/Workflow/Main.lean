import Std.Time.DateTime.Timestamp
import Workflow.CommandLine.Program

/-!
The program itself: it takes from the machine what a command line needs, and writes out what comes of
it.
-/
namespace Workflow.CommandLine

open Files (Entry Tree)
open Time (Instant)

/-- A written path as a place on the machine. -/
def located (path : String) := IO.FS.DirEntry.path ⟨".", path⟩

/-- What lies at a path that is no directory. -/
def fileAt? (path : String) : IO (Option Entry) := do
  match ← (IO.FS.readBinFile (located path)).toBaseIO with
  | .error _ => return none
  | .ok bytes => return some (((String.fromUTF8? bytes).map .text).getD .binary)

/-- The tree with a directory, as far as the tree allows it. -/
def withDirectory (t : Tree) (path : String) : Tree := (t.makeDirectory path).toOption.getD t

def withFile (t : Tree) (path : String) : IO Tree := do
  match ← fileAt? path with
  | none => return t
  | some e => return (t.place path e).toOption.getD t

/-- Takes over everything at and below a path. -/
partial def withAll (t : Tree) (path : String) : IO Tree := do
  if ← (located path).isDir then
    let mut t := withDirectory t path
    for entry in ← (located path).readDir do
      t ← withAll t (Files.Path.join path entry.fileName)
    return t
  else withFile t path

/-- Takes over what lies along a path. -/
def withPath (t : Tree) (path : String) : IO Tree := do
  let mut t := t
  let mut place := if path.startsWith "/" then "/" else ""
  for step in Files.Path.steps path do
    place := Files.Path.join place step
    if ← (located place).isDir then t := withDirectory t place
    else t ← withFile t place
  return t

/-- The files that an invocation may look at. -/
def filesFor (i : Invocation) (home : Option String) : IO Tree := do
  let settings := Files.Path.join (Config.dataDirectory i.dataDirectory home) Config.fileName
  let t ← withPath ∅ settings
  match i.command with
  | .validate path =>
    let t ← withPath t path
    withAll t path
  | .run r => withPath t r.file
  | _ => return t

def currentInstant : IO Instant := do
  let now ← Std.Time.Timestamp.now
  let nanos := now.toNanosecondsSinceUnixEpoch.val
  return ⟨nanos / Time.billion, (nanos % Time.billion).toNat⟩

def randomNumber : IO Nat := do
  return (← IO.getRandomBytes 16).foldl (fun n b => n * 256 + b.toNat) 0

def write (r : Report) : IO UInt32 := do
  IO.print (textOf (spanLines r.spans))
  IO.print r.output
  if let some complaint := r.complaint then IO.eprintln ("Error: " ++ complaint)
  return UInt32.ofNat r.exit

def program (args : List String) : IO UInt32 := do
  match Invocation.parse (← IO.getEnv "PROCFLOW_DATA_DIR") args with
  | .error stop => write stop.report
  | .ok i =>
    let home ← IO.getEnv "HOME"
    let supply := Supply.ofMoment (← currentInstant) (← randomNumber)
    write (i.execute ⟨← filesFor i home, home, i.dataDirectory, ← IO.getEnv "RUST_LOG", supply⟩)

end Workflow.CommandLine

def main (args : List String) : IO UInt32 := Workflow.CommandLine.program args
