import Mathlib.Data.Fintype.Order
import Mathlib.Order.WellFounded
import Workflow.Engine.Starvation
import Workflow.Proofs.Paths
import Workflow.Proofs.Routes

/-!
Which join starves. None does just when every join that waits can still be reached from where tokens
will move on; of several that do, the one that is let go first is one that nothing else leads to, as long
as no two of them lead to each other (`starvedJoin?_sound_and_complete`).
-/
namespace Workflow

open Relation

/-! ### Paths to nodes -/

namespace Definition

variable {d : Definition} {a b c : String}

/-- Whether a path of transitions leads from an id to a node of another one. -/
def Reaches (d : Definition) (a b : String) : Prop := d.Downstream a b ∧ d.hasNode b = true

theorem Reaches.trans (hab : d.Reaches a b) (hbc : d.Reaches b c) : d.Reaches a c :=
  ⟨hab.1.trans hbc.1, hbc.2⟩

/-- What the search finds from an id, apart from the id itself. -/
theorem mem_reachableFrom_of_ne (hne : a ≠ b) : b ∈ d.reachableFrom a ↔ d.Reaches a b := by
  rw [mem_reachableFrom, reflTransGen_iff_eq_or_transGen]
  constructor
  · rintro ⟨-, hb, hpath⟩
    exact ⟨hpath.resolve_left (Ne.symm hne), hb⟩
  · rintro ⟨hpath, hb⟩
    obtain ⟨c, hac, -⟩ := TransGen.head'_iff.1 hpath
    exact ⟨hac.hasNode, hb, Or.inr hpath⟩

end Definition

/-! ### Where tokens wait -/

namespace Instance

/-- Whether tokens wait at an id as at a join. -/
def GathersAt (i : Instance) (id : String) : Prop :=
  id ∈ i.currentNodes ∧ i.joinArrivals.contains id = true

/-- Whether a token waits at an id from which it will move on. -/
def LiveAt (i : Instance) (id : String) : Prop :=
  id ∈ i.currentNodes ∧ i.joinArrivals.contains id = false

/-- Whether tokens wait at a join that no token which will move on can reach. -/
def StarvesAt (d : Definition) (i : Instance) (join : String) : Prop :=
  i.GathersAt join ∧ ∀ m, i.LiveAt m → ¬ d.Reaches m join

variable {i : Instance} {a b : String}

theorem LiveAt.ne (ha : i.LiveAt a) (hb : i.GathersAt b) : a ≠ b := by
  rintro rfl
  exact Bool.false_ne_true (ha.2.symm.trans hb.2)

theorem gathersAt_or_liveAt (ha : a ∈ i.currentNodes) : i.GathersAt a ∨ i.LiveAt a := by
  cases h : i.joinArrivals.contains a with
  | true => exact Or.inl ⟨ha, h⟩
  | false => exact Or.inr ⟨ha, h⟩

end Instance

namespace Engine

variable {ev : Guard.Evaluator} {d : Definition} {i : Instance} {a b join : String}

/-! ### Starved joins -/

theorem mem_starvedJoins_iff : join ∈ starvedJoins d i ↔
    join ∈ i.currentNodes ∧ i.joinArrivals.contains join = true ∧
      ∀ m, m ∈ i.currentNodes → i.joinArrivals.contains m = false → ¬ join ∈ d.reachableFrom m := by
  simp only [starvedJoins, waitingJoins, liveNodes, isReachedBy, isWaitingJoin, List.mem_filter,
    NameSet.mem_toList, Bool.not_eq_true', List.any_eq_false, NameSet.mem_def]
  tauto

theorem mem_starvedJoins_iff_starvesAt : join ∈ starvedJoins d i ↔ i.StarvesAt d join := by
  rw [mem_starvedJoins_iff, ← and_assoc]
  apply and_congr_right
  intro hjoin
  constructor
  · intro hlive m hm hreaches
    exact hlive m hm.1 hm.2 ((Definition.mem_reachableFrom_of_ne (hm.ne hjoin)).2 hreaches)
  · intro hlive m hm hfree hmem
    have hne : m ≠ join := Instance.LiveAt.ne ⟨hm, hfree⟩ hjoin
    exact hlive m ⟨hm, hfree⟩ ((Definition.mem_reachableFrom_of_ne hne).1 hmem)

theorem starvedJoin?_eq_none_iff : starvedJoin? d i = none ↔ ∀ join, join ∉ starvedJoins d i := by
  rw [← List.eq_nil_iff_forall_not_mem]
  constructor
  · intro h
    rw [starvedJoin?, Option.or_eq_none_iff] at h
    exact List.head?_eq_none_iff.1 h.2
  · intro h
    rw [starvedJoin?, h]
    rfl

/-- Which join starves depends on where tokens wait only. -/
theorem starvedJoin?_congr {j : Instance} (hnodes : j.currentNodes = i.currentNodes)
    (harrivals : j.joinArrivals = i.joinArrivals) : starvedJoin? d j = starvedJoin? d i := by
  have hwaiting : isWaitingJoin j = isWaitingJoin i := by
    funext n
    rw [isWaitingJoin, isWaitingJoin, harrivals]
  rw [starvedJoin?, starvedJoin?, starvedJoins, starvedJoins, waitingJoins, waitingJoins, liveNodes,
    liveNodes, hnodes, hwaiting]

/-! ### The first of several -/

/-- Of several ids there is one to which none of the others leads, if no two lead to each other. -/
theorem exists_first {ids : List String} (hne : ids ≠ [])
    (h : ∀ a ∈ ids, ∀ b ∈ ids, a ≠ b → d.Reaches a b → ¬ d.Reaches b a) :
    ∃ a ∈ ids, ∀ b ∈ ids, b ≠ a → ¬ d.Reaches b a := by
  let before : {a // a ∈ ids} → {a // a ∈ ids} → Prop := fun a b => a.1 ≠ b.1 ∧ d.Reaches a.1 b.1
  have : IsTrans {a // a ∈ ids} before := ⟨fun a b c hab hbc => by
    refine ⟨fun hac => ?_, hab.2.trans hbc.2⟩
    exact h a.1 a.2 b.1 b.2 hab.1 hab.2 (hac ▸ hbc.2)⟩
  have : Std.Irrefl before := ⟨fun a haa => haa.1 rfl⟩
  obtain ⟨b, hb⟩ := List.exists_mem_of_ne_nil ids hne
  obtain ⟨a, -, hfirst⟩ := (Finite.wellFounded_of_trans_of_irrefl before).has_min Set.univ
    ⟨⟨b, hb⟩, trivial⟩
  exact ⟨a.1, a.2, fun b hb hne hpath => hfirst ⟨b, hb⟩ trivial ⟨hne, hpath⟩⟩

theorem not_isReachedBy_iff {ids : List String} :
    (!isReachedBy d (ids.filter (· != a)) a) = true ↔ ∀ b ∈ ids, b ≠ a → ¬ d.Reaches b a := by
  simp only [isReachedBy, Bool.not_eq_true', List.any_eq_false, List.mem_filter, bne_iff_ne, and_imp]
  refine forall₂_congr fun b _ => forall_congr' fun hne => not_congr ?_
  exact Definition.mem_reachableFrom_of_ne hne

/-- No other starved join leads to the one that is let go, if no two of them lead to each other. -/
theorem first_of_starvedJoin? (h : starvedJoin? d i = some join)
    (hapart : ∀ a b, i.StarvesAt d a → i.StarvesAt d b → a ≠ b → d.Reaches a b → ¬ d.Reaches b a) :
    ∀ a, i.StarvesAt d a → a ≠ join → ¬ d.Reaches a join := by
  simp only [← mem_starvedJoins_iff_starvesAt] at hapart ⊢
  cases hfind : (starvedJoins d i).find? fun a =>
      !isReachedBy d ((starvedJoins d i).filter (· != a)) a with
  | some a =>
    rw [starvedJoin?, hfind] at h
    cases h
    exact not_isReachedBy_iff.1 (by simpa using List.find?_some hfind)
  | none =>
    -- the search would have found the first of them
    have hne : starvedJoins d i ≠ [] := List.ne_nil_of_mem (mem_starvedJoins_of_starvedJoin? h)
    obtain ⟨a, ha, hfirst⟩ := exists_first hne fun a ha b hb => hapart a b ha hb
    exact absurd (not_isReachedBy_iff.2 hfirst) (List.find?_eq_none.1 hfind a ha)

/-- Nothing that waits elsewhere leads to the join that is let go, if no two starved joins lead to each
other: whatever keeps another join from starving would keep this one from it too. -/
theorem apart_of_starvedJoin? (h : starvedJoin? d i = some join)
    (hapart : ∀ a b, i.StarvesAt d a → i.StarvesAt d b → a ≠ b → d.Reaches a b → ¬ d.Reaches b a)
    {n : String} (hn : n ∈ i.currentNodes) (hne : n ≠ join) : ¬ d.Reaches n join := by
  obtain ⟨-, hlive⟩ := mem_starvedJoins_iff_starvesAt.1 (mem_starvedJoins_of_starvedJoin? h)
  intro hreaches
  rcases Instance.gathersAt_or_liveAt hn with hgathers | hn
  · by_cases hfed : ∃ m, i.LiveAt m ∧ d.Reaches m n
    · obtain ⟨m, hm, hmn⟩ := hfed
      exact hlive m hm (hmn.trans hreaches)
    · have hstarves : i.StarvesAt d n := ⟨hgathers, fun m hm hmn => hfed ⟨m, hm, hmn⟩⟩
      exact first_of_starvedJoin? h hapart n hstarves hne hreaches
  · exact hlive n hn hreaches

/-! ### Ways of tokens -/

theorem node?_spec {d : Definition} {id : String} {n : Node} (h : d.node? id = some n) :
    n ∈ d.nodes ∧ n.id = id :=
  ⟨List.mem_of_find?_eq_some h, by simpa using List.find?_some h⟩

/-- Whether a token that leaves one node enters another one next, for some variables. -/
def Hop (ev : Guard.Evaluator) (d : Definition) (a b : String) : Prop :=
  ∃ n vars targets, d.node? a = some n ∧ (route ev n vars).1 = .ok targets ∧ b ∈ targets ∧
    (d.node? b).isSome = true

theorem Hop.reaches (h : Hop ev d a b) : d.Reaches a b := by
  obtain ⟨n, vars, targets, hn, hroute, hb, hnode⟩ := h
  obtain ⟨hmem, hid⟩ := node?_spec hn
  obtain ⟨m, hm⟩ := Option.isSome_iff_exists.1 hnode
  have hleads : d.Leads a b := Definition.leads_iff.2 ⟨n, hmem, hid, mem_targets_of_route hroute hb⟩
  exact ⟨.single hleads, Definition.hasNode_iff.2 ⟨m, node?_spec hm⟩⟩

theorem reaches_of_hops (h : TransGen (Hop ev d) a b) : d.Reaches a b := by
  induction h with
  | single h => exact h.reaches
  | tail _ h ih => exact ih.trans h.reaches

/-- No join starves just when each that waits can still be reached from where a token will move on. One
that is let go is a join that waits and cannot; and where no two such joins lead to each other, no token
that is parked elsewhere can come to it any more. -/
theorem starvedJoin?_sound_and_complete (d : Definition) (i : Instance) :
    (starvedJoin? d i = none ↔
      ∀ join, i.GathersAt join → ∃ m, i.LiveAt m ∧ d.Reaches m join) ∧
    ∀ join, starvedJoin? d i = some join →
      i.GathersAt join ∧ (∀ m, i.LiveAt m → ¬ d.Reaches m join) ∧
      ((∀ a b, i.StarvesAt d a → i.StarvesAt d b → a ≠ b → ¬ (d.Reaches a b ∧ d.Reaches b a)) →
        ∀ n, n ∈ i.currentNodes → n ≠ join →
          ¬ d.Reaches n join ∧ ∀ ev, ¬ TransGen (Hop ev d) n join) := by
  refine ⟨?_, fun join h => ?_⟩
  · rw [starvedJoin?_eq_none_iff]
    simp only [mem_starvedJoins_iff_starvesAt, Instance.StarvesAt, not_and]
    refine forall₂_congr fun join _ => ?_
    push Not
    exact Iff.rfl
  · have hstarves := mem_starvedJoins_iff_starvesAt.1 (mem_starvedJoins_of_starvedJoin? h)
    refine ⟨hstarves.1, hstarves.2, fun hapart n hn hne => ?_⟩
    have hnone : ¬ d.Reaches n join := apart_of_starvedJoin? h
      (fun a b ha hb hab hto hback => hapart a b ha hb hab ⟨hto, hback⟩) hn hne
    exact ⟨hnone, fun ev hhops => hnone (reaches_of_hops hhops)⟩

section Chained

/-- A join that leads to another one, which comes first in the order of their names. -/
def chained : Definition :=
  { id := "chained", version := 1, name := none, description := none, reminder := none
    timeoutSeconds := none
    nodes := [⟨"upper", none, .join none, none, [.plain "lower"]⟩, ⟨"lower", none, .join none, none, []⟩] }

/-- An instance where both of them wait. -/
def chainedInstance : Instance :=
  { Instance.create ⟨0⟩ "chained" 1 ∅ ⟨0, 0⟩ with
    currentNodes := (NameSet.insert ∅ "lower").insert "upper"
    joinArrivals := (Dict.empty.insert "lower" 1).insert "upper" 1 }

example : starvedJoin? chained chainedInstance = some "upper" := by cbv

end Chained

end Engine

end Workflow
