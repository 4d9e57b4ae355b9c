import Workflow.Definition.Basic
import Workflow.Guard.Evaluator

/-!
Where a token goes that leaves a node. A condition node lets it take one way, the first whose guard
holds or else the first unguarded one; every other node sends it along all ways that are open.
-/
namespace Workflow.Engine

/-- The targets to go to, or why a guard failed; and the expressions that were asked. -/
abbrev Routing := Except Guard.Fault (List String) × List String

/-- The target of the first transition whose guard holds, or else of the first unguarded one. -/
def takeFirst (decide : Condition → Except Guard.Fault Bool × List String)
    (fallback : Option String) : List Transition → Routing
  | [] => (.ok fallback.toList, [])
  | ⟨target, none⟩ :: ts => takeFirst decide (fallback.or (some target)) ts
  | ⟨target, some guard⟩ :: ts =>
    match decide guard with
    | (.ok true, asked) => (.ok [target], asked)
    | (.ok false, asked) =>
      let rest := takeFirst decide fallback ts
      (rest.1, asked ++ rest.2)
    | (.error f, asked) => (.error f, asked)

/-- The targets of all transitions that are unguarded or whose guard holds. -/
def takeAll (decide : Condition → Except Guard.Fault Bool × List String) :
    List Transition → Routing
  | [] => (.ok [], [])
  | ⟨target, none⟩ :: ts =>
    let rest := takeAll decide ts
    (rest.1.map (target :: ·), rest.2)
  | ⟨target, some guard⟩ :: ts =>
    match decide guard with
    | (.ok holds, asked) =>
      let rest := takeAll decide ts
      (if holds then rest.1.map (target :: ·) else rest.1, asked ++ rest.2)
    | (.error f, asked) => (.error f, asked)

def route (ev : Guard.Evaluator) (n : Node) (vars : Variables) : Routing :=
  match n.kind with
  | .condition => takeFirst (ev.evaluate · vars) none n.transitions
  | .stop => (.ok [], [])
  | _ => takeAll (ev.evaluate · vars) n.transitions

end Workflow.Engine
