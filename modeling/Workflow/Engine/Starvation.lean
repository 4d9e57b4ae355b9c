import Workflow.Definition.Graph
import Workflow.Instance.Basic

/-!
Joins that wait in vain. A join is starved when no token that waits elsewhere can still reach it; of
several starved joins the one that no other leads to goes first, so that a chain of joins fires in
order.
-/
namespace Workflow.Engine

/-- Whether the instance waits at this id as at a join. -/
def isWaitingJoin (i : Instance) (id : String) : Bool := i.joinArrivals.contains id

def waitingJoins (i : Instance) : List String := i.currentNodes.toList.filter (isWaitingJoin i)

/-- Where tokens wait that will move on: at open tasks, and where routing failed. -/
def liveNodes (i : Instance) : List String :=
  i.currentNodes.toList.filter fun id => !isWaitingJoin i id

def isReachedBy (d : Definition) (sources : List String) (id : String) : Bool :=
  sources.any fun s => (d.reachableFrom s).contains id

def starvedJoins (d : Definition) (i : Instance) : List String :=
  (waitingJoins i).filter fun id => !isReachedBy d (liveNodes i) id

/-- The first starved join that no other one leads to, or else the first one. -/
def starvedJoin? (d : Definition) (i : Instance) : Option String :=
  let starved := starvedJoins d i
  (starved.find? fun id => !isReachedBy d (starved.filter (· != id)) id).or starved.head?

theorem mem_starvedJoins {d : Definition} {i : Instance} {id : String}
    (h : id ∈ starvedJoins d i) : i.joinArrivals.contains id = true := by
  simp only [starvedJoins, waitingJoins, List.mem_filter, isWaitingJoin] at h
  exact h.1.2

theorem mem_starvedJoins_of_starvedJoin? {d : Definition} {i : Instance} {id : String}
    (h : starvedJoin? d i = some id) : id ∈ starvedJoins d i := by
  simp only [starvedJoin?, Option.or_eq_some_iff] at h
  rcases h with h | ⟨_, h⟩
  · exact List.mem_of_find?_eq_some h
  · exact List.mem_of_head? h

end Workflow.Engine
