import Mathlib.Data.Finset.Card
import Mathlib.Logic.Relation
import Workflow.Definition.Graph

/-!
The graph of a definition as a relation between ids. The search finds just the ids of nodes that paths
lead to (`mem_reachableFrom`), and where no path leads back to where it began, every path goes down
(`Acyclic.height_lt`).
-/
namespace Workflow.Definition

open Relation

variable {d : Definition} {a b c : String}

/-- Whether some node of an id has a transition to another one. -/
def Leads (d : Definition) (a b : String) : Prop := b ∈ d.successors a

/-- Whether a path with at least one transition leads from an id to another one. -/
def Downstream (d : Definition) (a b : String) : Prop := TransGen d.Leads a b

/-- Whether a path leads from the start node to an id. -/
def FromStart (d : Definition) (a : String) : Prop :=
  ∃ start, d.startNode? = some start ∧ ReflTransGen d.Leads start.id a

theorem leads_iff : d.Leads a b ↔ ∃ n ∈ d.nodes, n.id = a ∧ b ∈ n.targets := by
  rw [Leads, successors, List.mem_flatMap]
  simp only [List.mem_filter, beq_iff_eq]
  constructor
  · rintro ⟨n, ⟨hn, hid⟩, hb⟩
    exact ⟨n, hn, hid, hb⟩
  · rintro ⟨n, hn, hid, hb⟩
    exact ⟨n, ⟨hn, hid⟩, hb⟩

theorem hasNode_iff : d.hasNode a = true ↔ ∃ n ∈ d.nodes, n.id = a := by
  rw [hasNode, List.any_eq_true]
  simp only [beq_iff_eq]

theorem Leads.hasNode (h : d.Leads a b) : d.hasNode a = true := by
  obtain ⟨n, hn, hid, -⟩ := leads_iff.1 h
  exact hasNode_iff.2 ⟨n, hn, hid⟩

/-! ### The search -/

/-- Everything found was seen before, or a path leads to it from a node that was waiting. -/
theorem mem_of_mem_explore {seen : NameSet} {waiting : List String}
    (h : b ∈ d.explore seen waiting) : b ∈ seen ∨
      d.hasNode b = true ∧ ∃ a ∈ waiting, d.hasNode a = true ∧ ReflTransGen d.Leads a b := by
  induction seen, waiting using explore.induct d with
  | case1 seen =>
    rw [explore] at h
    exact Or.inl h
  | case2 seen id waiting hnew ih =>
    rw [explore, dif_pos hnew] at h
    rcases ih h with hseen | ⟨hb, a, ha, hnode, hpath⟩
    · rcases NameSet.mem_insert.1 hseen with rfl | hseen
      · exact Or.inr ⟨hnew.1, b, List.mem_cons_self .., hnew.1, .refl⟩
      · exact Or.inl hseen
    · rcases List.mem_append.1 ha with hleads | ha
      · exact Or.inr ⟨hb, id, List.mem_cons_self .., hnew.1, .head hleads hpath⟩
      · exact Or.inr ⟨hb, a, List.mem_cons_of_mem _ ha, hnode, hpath⟩
  | case3 seen id waiting hold ih =>
    rw [explore, dif_neg hold] at h
    rcases ih h with hseen | ⟨hb, a, ha, hpath⟩
    · exact Or.inl hseen
    · exact Or.inr ⟨hb, a, List.mem_cons_of_mem _ ha, hpath⟩

theorem subset_explore {seen : NameSet} {waiting : List String} (h : b ∈ seen) :
    b ∈ d.explore seen waiting := by
  induction seen, waiting using explore.induct d with
  | case1 seen =>
    rw [explore]
    exact h
  | case2 seen id waiting hnew ih =>
    rw [explore, dif_pos hnew]
    exact ih (NameSet.mem_insert.2 (Or.inr h))
  | case3 seen id waiting hold ih =>
    rw [explore, dif_neg hold]
    exact ih h

theorem mem_explore_of_mem {seen : NameSet} {waiting : List String} (h : b ∈ waiting)
    (hb : d.hasNode b = true) : b ∈ d.explore seen waiting := by
  induction seen, waiting using explore.induct d with
  | case1 seen => cases h
  | case2 seen id waiting hnew ih =>
    rw [explore, dif_pos hnew]
    rcases List.mem_cons.1 h with rfl | h
    · exact subset_explore (NameSet.mem_insert.2 (Or.inl rfl))
    · exact ih (List.mem_append_right _ h)
  | case3 seen id waiting hold ih =>
    rw [explore, dif_neg hold]
    rcases List.mem_cons.1 h with rfl | h
    · refine subset_explore ?_
      by_contra hnew
      exact hold ⟨hb, Bool.eq_false_iff.2 hnew⟩
    · exact ih h

/-- What is found is closed under transitions to nodes, if what was seen is so but for what waits. -/
theorem explore_closed {seen : NameSet} {waiting : List String}
    (hseen : ∀ a b, a ∈ seen → d.Leads a b → d.hasNode b = true → b ∈ seen ∨ b ∈ waiting)
    (ha : a ∈ d.explore seen waiting) (hab : d.Leads a b) (hb : d.hasNode b = true) :
    b ∈ d.explore seen waiting := by
  induction seen, waiting using explore.induct d with
  | case1 seen =>
    rw [explore] at ha ⊢
    exact (hseen a b ha hab hb).resolve_right List.not_mem_nil
  | case2 seen id waiting hnew ih =>
    rw [explore, dif_pos hnew] at ha ⊢
    refine ih (fun a b ha hab hb => ?_) ha
    rcases NameSet.mem_insert.1 ha with rfl | ha
    · exact Or.inr (List.mem_append_left _ hab)
    · rcases hseen a b ha hab hb with hold | hwaits
      · exact Or.inl (NameSet.mem_insert.2 (Or.inr hold))
      · rcases List.mem_cons.1 hwaits with rfl | hwaits
        · exact Or.inl (NameSet.mem_insert.2 (Or.inl rfl))
        · exact Or.inr (List.mem_append_right _ hwaits)
  | case3 seen id waiting hold ih =>
    rw [explore, dif_neg hold] at ha ⊢
    refine ih (fun a b ha hab hb => ?_) ha
    rcases hseen a b ha hab hb with hold' | hwaits
    · exact Or.inl hold'
    · rcases List.mem_cons.1 hwaits with rfl | hwaits
      · -- a node that is passed over was seen before
        refine Or.inl ?_
        by_contra hnew
        exact hold ⟨hb, Bool.eq_false_iff.2 hnew⟩
      · exact Or.inr hwaits

/-- The search from an id finds the nodes that paths from it lead to. -/
theorem mem_reachableFrom : b ∈ d.reachableFrom a ↔
    d.hasNode a = true ∧ d.hasNode b = true ∧ ReflTransGen d.Leads a b := by
  constructor
  · intro h
    rcases mem_of_mem_explore h with hseen | ⟨hb, c, hc, hnode, hpath⟩
    · exact absurd hseen (NameSet.not_mem_empty b)
    · rw [List.mem_singleton.1 hc] at hnode hpath
      exact ⟨hnode, hb, hpath⟩
  · rintro ⟨ha, hb, hpath⟩
    have hclosed : ∀ {b c}, b ∈ d.reachableFrom a → d.Leads b c → d.hasNode c = true →
        c ∈ d.reachableFrom a := fun hb hbc hc =>
      explore_closed (fun a _ ha _ _ => absurd ha (NameSet.not_mem_empty a)) hb hbc hc
    induction hpath with
    | refl => exact mem_explore_of_mem (List.mem_singleton_self a) ha
    | tail _ hbc ih => exact hclosed (ih hbc.hasNode) hbc hb

/-! ### Graphs without cycles -/

/-- No path leads back to where it began. -/
def Acyclic (d : Definition) : Prop := ∀ a, ¬ d.Downstream a a

theorem Downstream.mem_targets (h : d.Downstream a b) : b ∈ d.transitions.map (·.target) := by
  obtain ⟨c, -, hcb⟩ := TransGen.tail'_iff.1 h
  obtain ⟨n, hn, -, hb⟩ := leads_iff.1 hcb
  obtain ⟨t, ht, rfl⟩ := List.mem_map.1 hb
  exact List.mem_map_of_mem (List.mem_flatMap.2 ⟨n, hn, ht⟩)

/-- Numbers that fall along every transition leave no room for a cycle. -/
theorem acyclic_of_rank (rank : String → Nat)
    (h : ∀ n ∈ d.nodes, ∀ t ∈ n.targets, rank t < rank n.id) : d.Acyclic := by
  have hfalls : ∀ {a b}, d.Downstream a b → rank b < rank a := by
    intro a b hab
    induction hab with
    | single hab =>
      obtain ⟨n, hn, rfl, hb⟩ := leads_iff.1 hab
      exact h n hn _ hb
    | tail _ hbc ih =>
      obtain ⟨n, hn, rfl, hc⟩ := leads_iff.1 hbc
      exact Nat.lt_trans (h n hn _ hc) ih
  exact fun a ha => Nat.lt_irrefl _ (hfalls ha)

open Classical in
/-- How many targets paths from an id lead to. -/
noncomputable def height (d : Definition) (a : String) : Nat :=
  ((d.transitions.map (·.target)).toFinset.filter (d.Downstream a)).card

theorem Acyclic.height_lt (h : d.Acyclic) (hab : d.Downstream a b) : d.height b < d.height a := by
  classical
  refine Finset.card_lt_card (Finset.ssubset_iff_of_subset ?_ |>.2 ⟨b, ?_, ?_⟩)
  · intro c hc
    rw [Finset.mem_filter] at hc ⊢
    exact ⟨hc.1, hab.trans hc.2⟩
  · rw [Finset.mem_filter, List.mem_toFinset]
    exact ⟨hab.mem_targets, hab⟩
  · -- the one target that is lost is the node itself, which no path leads back to
    rw [Finset.mem_filter]
    exact fun hb => h b hb.2

end Workflow.Definition
