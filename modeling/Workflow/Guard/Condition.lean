/-!
The condition of a transition: groups of expressions, of which one whole group has to hold. The
expressions are asked one after another, and asking stops as soon as the answer is known.
-/
namespace Workflow

structure Condition where
  groups : List (List String)
deriving DecidableEq, Repr, Inhabited

namespace Condition

def single (expression : String) : Condition := ⟨[[expression]]⟩

/-- Every expression in the order of the groups. -/
def atoms (c : Condition) : List String := c.groups.flatten

def isEmpty (c : Condition) : Bool := c.groups.isEmpty

variable {ε : Type u}

/-- Whether every expression holds, and which ones were asked. -/
def askAll (atom : String → Except ε Bool) : List String → Except ε Bool × List String
  | [] => (.ok true, [])
  | a :: as =>
    match atom a with
    | .ok true =>
      let rest := askAll atom as
      (rest.1, a :: rest.2)
    | answer => (answer, [a])

/-- Whether some group holds, and which expressions were asked; empty groups are passed over. -/
def askAny (atom : String → Except ε Bool) : List (List String) → Except ε Bool × List String
  | [] => (.ok false, [])
  | [] :: gs => askAny atom gs
  | g :: gs =>
    match askAll atom g with
    | (.ok false, asked) =>
      let rest := askAny atom gs
      (rest.1, asked ++ rest.2)
    | answer => answer

def ask (c : Condition) (atom : String → Except ε Bool) : Except ε Bool × List String :=
  askAny atom c.groups

end Condition

end Workflow
