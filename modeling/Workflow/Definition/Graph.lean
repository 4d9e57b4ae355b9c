import Workflow.Data.NameSet
import Workflow.Definition.Basic

/-!
Which nodes of a definition can be reached from one another. Nodes count by their ids: all nodes of
one id act as one, and transitions to ids that no node has lead nowhere.
-/
namespace Workflow.Definition

def hasNode (d : Definition) (id : String) : Bool := d.nodes.any fun n => n.id == id

/-- The targets of every node of this id. -/
def successors (d : Definition) (id : String) : List String :=
  (d.nodes.filter fun n => n.id == id).flatMap Node.targets

/-- How many nodes have an id that is not in the set. -/
def unvisited (d : Definition) (seen : NameSet) : Nat :=
  (d.nodes.filter fun n => !seen.contains n.id).length

theorem length_filter_le_of_imp {α : Type} {p q : α → Bool} {l : List α}
    (h : ∀ x ∈ l, p x = true → q x = true) : (l.filter p).length ≤ (l.filter q).length := by
  simpa only [← List.countP_eq_length_filter] using List.countP_mono_left h

theorem length_filter_lt_of_mem {α : Type} {p q : α → Bool} {l : List α} {a : α}
    (h : ∀ x ∈ l, p x = true → q x = true) (ha : a ∈ l) (hq : q a = true) (hp : p a = false) :
    (l.filter p).length < (l.filter q).length := by
  obtain ⟨l₁, l₂, rfl⟩ := List.append_of_mem ha
  have h₁ := length_filter_le_of_imp (l := l₁) (p := p) (q := q) fun x hx => h x (by simp [hx])
  have h₂ := length_filter_le_of_imp (l := l₂) (p := p) (q := q) fun x hx => h x (by simp [hx])
  simp only [List.filter_append, List.filter_cons, hp, hq, List.length_append, List.length_cons,
    if_true, Bool.false_eq_true, if_false]
  omega

theorem unvisited_insert_lt {d : Definition} {seen : NameSet} {id : String}
    (hid : d.hasNode id = true) (hnew : seen.contains id = false) :
    d.unvisited (seen.insert id) < d.unvisited seen := by
  obtain ⟨n, hn, hni⟩ := List.any_eq_true.1 hid
  have hni : n.id = id := by simpa using hni
  refine length_filter_lt_of_mem (fun m _ hm => ?_) hn (by simp [hni, hnew]) ?_
  · cases hs : seen.contains m.id with
    | false => rfl
    | true =>
      have : (seen.insert id).contains m.id = true := NameSet.mem_insert.2 (Or.inr hs)
      simp [this] at hm
  · have : (seen.insert id).contains n.id = true := NameSet.mem_insert.2 (Or.inl hni)
    simp [this]

/-- The ids seen so far and all that can be reached from the ones waiting. -/
def explore (d : Definition) (seen : NameSet) : (waiting : List String) → NameSet
  | [] => seen
  | id :: waiting =>
    if _h : d.hasNode id = true ∧ seen.contains id = false then
      explore d (seen.insert id) (d.successors id ++ waiting)
    else explore d seen waiting
  termination_by waiting => (d.unvisited seen, waiting.length)
  decreasing_by
    · exact Prod.Lex.left _ _ (unvisited_insert_lt _h.1 _h.2)
    · exact Prod.Lex.right _ (by simp)

/-- Every id on a path from a node, itself included; none if there is no such node. -/
def reachableFrom (d : Definition) (id : String) : NameSet := d.explore ∅ [id]

/-- The nodes that no path from an id leads to. -/
def unreachableFrom (d : Definition) (id : String) : List Node :=
  d.nodes.filter fun n => !(d.reachableFrom id).contains n.id

end Workflow.Definition
