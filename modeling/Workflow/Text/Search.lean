/-!
Looking for one text inside another, on lists of characters.
-/
namespace Workflow.Text

variable {α : Type u} [BEq α]

/-- Whether `pat` occurs somewhere in the list. -/
def occursIn (pat : List α) : List α → Bool
  | [] => pat.isEmpty
  | c :: cs => pat.isPrefixOf (c :: cs) || occursIn pat cs

/-- What stands before the first occurrence of `pat` and what follows it. -/
def cutAt (pat : List α) : List α → Option (List α × List α)
  | [] => if pat.isEmpty then some ([], []) else none
  | c :: cs =>
    if pat.isPrefixOf (c :: cs) then some ([], (c :: cs).drop pat.length)
    else (cutAt pat cs).map fun p => (c :: p.1, p.2)

/-- `skip` characters still belong to the last occurrence found. -/
def splitFrom (pat : List α) : (skip : Nat) → List α → List (List α)
  | _, [] => [[]]
  | skip + 1, _ :: cs => splitFrom pat skip cs
  | 0, c :: cs =>
    if pat.isPrefixOf (c :: cs) then [] :: splitFrom pat (pat.length - 1) cs
    else match splitFrom pat 0 cs with
      | [] => [[c]]
      | w :: ws => (c :: w) :: ws

/-- The pieces between occurrences of `pat`, found from the left. An empty `pat` occurs before
every character and at the end. -/
def splitOnText (pat cs : List α) : List (List α) :=
  if pat.isEmpty then [[]] ++ cs.map (fun c => [c]) ++ [[]] else splitFrom pat 0 cs

def contains (s pat : String) : Bool := occursIn pat.toList s.toList

def splitOnce? (s pat : String) : Option (String × String) :=
  (cutAt pat.toList s.toList).map fun p => (String.ofList p.1, String.ofList p.2)

def split (s pat : String) : List String := (splitOnText pat.toList s.toList).map String.ofList

def hasPrefix (s pat : String) : Bool := pat.toList.isPrefixOf s.toList

def hasSuffix (s pat : String) : Bool := pat.toList.isSuffixOf s.toList

/-- What follows `pat` when the text begins with it. -/
def afterPrefix? (s pat : String) : Option String :=
  if hasPrefix s pat then some (String.ofList (s.toList.drop pat.toList.length)) else none

def joinWith (sep : String) (parts : List String) : String := sep.intercalate parts

example : splitOnText "aa".toList "aaaab".toList = ["".toList, "".toList, "b".toList] := by decide

end Workflow.Text
