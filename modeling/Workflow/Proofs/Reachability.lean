import Mathlib.Logic.Function.Iterate
import Workflow.Proofs.Paths

/-!
The search through the graph of a definition. It finds just what lies on a path from an id, on whatever
graph, and it is over after one round for the id itself and one for each transition out of what it finds
(`exists_rounds`).

## Main statements

* `reachableFrom_exact`: what the search finds, and after how many rounds.
-/
namespace Workflow.Definition

open Relation

variable {d : Definition} {a b c id : String} {seen : NameSet} {waiting : List String}

/-! ### Paths -/

/-- Ids of nodes, each of them with a transition to the next one. -/
structure IsPath (d : Definition) (path : List String) : Prop where
  nodes : ∀ a ∈ path, ∃ n ∈ d.nodes, n.id = a
  steps : path.IsChain fun a b => ∃ n ∈ d.nodes, n.id = a ∧ b ∈ n.targets

theorem isPath_singleton (ha : d.hasNode a = true) : d.IsPath [a] :=
  ⟨by simpa using hasNode_iff.1 ha, .singleton a⟩

theorem IsPath.cons {path : List String} (h : d.IsPath (b :: path)) (hab : d.Leads a b) :
    d.IsPath (a :: b :: path) where
  nodes := List.forall_mem_cons.2 ⟨hasNode_iff.1 hab.hasNode, h.nodes⟩
  steps := .cons_cons (leads_iff.1 hab) h.steps

theorem exists_path (h : ReflTransGen d.Leads a b) (hb : d.hasNode b = true) :
    ∃ path, d.IsPath path ∧ path.head? = some a ∧ path.getLast? = some b := by
  induction h using ReflTransGen.head_induction_on with
  | refl => exact ⟨[b], isPath_singleton hb, rfl, rfl⟩
  | @head a c hac _ ih =>
    obtain ⟨path, hpath, hhead, hlast⟩ := ih
    obtain ⟨rest, rfl⟩ := List.head?_eq_some_iff.1 hhead
    exact ⟨a :: c :: rest, hpath.cons hac, rfl, by rwa [List.getLast?_cons_cons]⟩

theorem IsPath.reflTransGen {path : List String} (h : d.IsPath path) (ha : path.head? = some a)
    (hb : path.getLast? = some b) : ReflTransGen d.Leads a b := by
  induction path generalizing a with
  | nil => cases ha
  | cons x path ih =>
    obtain rfl : x = a := Option.some.inj ha
    cases path with
    | nil =>
      obtain rfl : x = b := Option.some.inj hb
      exact .refl
    | cons y path =>
      obtain ⟨hxy, hsteps⟩ := List.isChain_cons_cons.1 h.steps
      rw [List.getLast?_cons_cons] at hb
      exact .head (leads_iff.2 hxy)
        (ih ⟨fun z hz => h.nodes z (List.mem_cons_of_mem _ hz), hsteps⟩ rfl hb)

/-! ### Rounds -/

/-- One round of the search: the first id that waits is passed over, or it is seen and all that it leads
to waits in front of the others. -/
def round (d : Definition) : NameSet × List String → NameSet × List String
  | (seen, []) => (seen, [])
  | (seen, id :: waiting) =>
    if d.hasNode id = true ∧ seen.contains id = false then
      (seen.insert id, d.successors id ++ waiting)
    else (seen, waiting)

/-- How many transitions leave the nodes that were seen. -/
def leaving (d : Definition) (seen : NameSet) : Nat :=
  ((d.nodes.filter fun n => seen.contains n.id).flatMap Node.targets).length

/-- Whether a state of the search comes to an end after so many rounds, no sooner and no later. -/
def EndsAfter (d : Definition) (rounds : Nat) (state : NameSet × List String) (found : NameSet) : Prop :=
  (∀ k < rounds, (d.round^[k] state).2 ≠ []) ∧ d.round^[rounds] state = (found, [])

theorem EndsAfter.cons {rounds : Nat} {state : NameSet × List String} {found : NameSet}
    (h : d.EndsAfter rounds (d.round state) found) (hwaits : state.2 ≠ []) :
    d.EndsAfter (rounds + 1) state found := by
  refine ⟨fun k hk => ?_, h.2⟩
  cases k with
  | zero => exact hwaits
  | succ k => exact h.1 k (Nat.lt_of_succ_lt_succ hk)

theorem leaving_empty (d : Definition) : d.leaving ∅ = 0 := by
  rw [leaving, List.length_eq_zero_iff, List.flatMap_eq_nil_iff]
  intro n hn
  exact absurd (List.mem_filter.1 hn).2 (NameSet.not_mem_empty n.id)

/-- To see an id for the first time adds the transitions out of it. -/
theorem leaving_insert (hnew : seen.contains id = false) :
    d.leaving (seen.insert id) = (d.successors id).length + d.leaving seen := by
  unfold leaving successors
  induction d.nodes with
  | nil => rfl
  | cons n ns ih =>
    have hinsert : (seen.insert id).contains n.id = true ↔ n.id = id ∨ seen.contains n.id = true :=
      NameSet.mem_insert
    have hsingle : (n.id == id) = true ↔ n.id = id := beq_iff_eq
    by_cases hid : n.id = id
    · have hold : seen.contains n.id = false := hid ▸ hnew
      simp only [List.filter_cons, if_pos (hinsert.2 (Or.inl hid)), if_pos (hsingle.2 hid), hold,
        Bool.false_eq_true, if_false, List.flatMap_cons, List.length_append, ih]
      omega
    · simp only [List.filter_cons, if_neg (hid ∘ hsingle.1), hinsert, hid, false_or]
      split
      · simp only [List.flatMap_cons, List.length_append, ih]
        omega
      · exact ih

/-- The search ends after as many rounds as ids wait and transitions leave what is newly found. -/
theorem exists_rounds (d : Definition) (seen : NameSet) (waiting : List String) :
    ∃ rounds, rounds + d.leaving seen = waiting.length + d.leaving (d.explore seen waiting) ∧
      d.EndsAfter rounds (seen, waiting) (d.explore seen waiting) := by
  induction seen, waiting using explore.induct d with
  | case1 seen =>
    rw [explore]
    exact ⟨0, rfl, fun k hk => absurd hk (Nat.not_lt_zero k), rfl⟩
  | case2 seen id waiting hnew ih =>
    obtain ⟨rounds, hcount, hends⟩ := ih
    have hround : d.round (seen, id :: waiting) = (seen.insert id, d.successors id ++ waiting) :=
      if_pos hnew
    -- the id makes way for the transitions out of it, which count as found from now on
    rw [explore, dif_pos hnew]
    rw [leaving_insert hnew.2, List.length_append] at hcount
    refine ⟨rounds + 1, ?_, EndsAfter.cons (by rwa [hround]) (List.cons_ne_nil id waiting)⟩
    rw [List.length_cons]
    omega
  | case3 seen id waiting hold ih =>
    obtain ⟨rounds, hcount, hends⟩ := ih
    have hround : d.round (seen, id :: waiting) = (seen, waiting) := if_neg hold
    rw [explore, dif_neg hold]
    refine ⟨rounds + 1, ?_, EndsAfter.cons (by rwa [hround]) (List.cons_ne_nil id waiting)⟩
    rw [List.length_cons]
    omega

/-! ### What is found -/

theorem mem_reachableFrom_iff_path : b ∈ d.reachableFrom a ↔
    ∃ path, d.IsPath path ∧ path.head? = some a ∧ path.getLast? = some b := by
  rw [mem_reachableFrom]
  constructor
  · rintro ⟨-, hb, hpath⟩
    exact exists_path hpath hb
  · rintro ⟨path, hpath, ha, hb⟩
    exact ⟨hasNode_iff.2 (hpath.nodes a (List.mem_of_head? ha)),
      hasNode_iff.2 (hpath.nodes b (List.mem_of_getLast? hb)), hpath.reflTransGen ha hb⟩

theorem reachableFrom_eq_empty_iff : d.reachableFrom a = ∅ ↔ ¬ ∃ n ∈ d.nodes, n.id = a := by
  rw [← hasNode_iff]
  constructor
  · intro hempty ha
    have hself : a ∈ d.reachableFrom a := mem_reachableFrom.2 ⟨ha, ha, .refl⟩
    rw [hempty] at hself
    exact NameSet.not_mem_empty a hself
  · intro ha
    refine NameSet.ext fun b => iff_of_false (fun hb => ?_) (NameSet.not_mem_empty b)
    exact ha (mem_reachableFrom.1 hb).1

theorem reachableFrom_trans (hb : b ∈ d.reachableFrom a) (hc : c ∈ d.reachableFrom b) :
    c ∈ d.reachableFrom a := by
  obtain ⟨ha, -, hab⟩ := mem_reachableFrom.1 hb
  obtain ⟨-, hc, hbc⟩ := mem_reachableFrom.1 hc
  exact mem_reachableFrom.2 ⟨ha, hc, hab.trans hbc⟩

/-- The search finds nothing from an id that no node has, and else the ends of the paths from it; what is
found from there was found already. It is over after one round and one more for each transition out of
what is found, whatever cycles and repeated or missing ids the definition has. -/
theorem reachableFrom_exact (d : Definition) (a : String) :
    (d.reachableFrom a = ∅ ↔ ¬ ∃ n ∈ d.nodes, n.id = a) ∧
      (∀ b, b ∈ d.reachableFrom a ↔
        ∃ path, d.IsPath path ∧ path.head? = some a ∧ path.getLast? = some b) ∧
      (∀ b ∈ d.reachableFrom a, ∀ c ∈ d.reachableFrom b, c ∈ d.reachableFrom a) ∧
      d.EndsAfter (1 + d.leaving (d.reachableFrom a)) (∅, [a]) (d.reachableFrom a) := by
  refine ⟨reachableFrom_eq_empty_iff, fun b => mem_reachableFrom_iff_path,
    fun b hb c hc => reachableFrom_trans hb hc, ?_⟩
  obtain ⟨rounds, hcount, hends⟩ := exists_rounds d ∅ [a]
  rw [leaving_empty, Nat.add_zero, List.length_singleton] at hcount
  rwa [hcount] at hends

end Workflow.Definition
