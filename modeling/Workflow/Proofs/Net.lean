import Mathlib.Algebra.Order.Group.Multiset
import Workflow.Engine.Traversal
import Workflow.Proofs.Paths

/-!
Tokens without an order. The net of a definition without guards forgets in which order tokens are
queued: any of them may move next, and a join lets its tokens go as soon as nothing that waits or moves
elsewhere leads to it. What happens at one node is no concern of any other, so that whichever moves come
first, the same rest is reached.

## Main statements

* `Net.Step.diamond`: two moves of a net may come in either order.
* `Net.Still.eq`: two nets without further moves that a net comes to are the same.
* `Net.steps_letGo`: a token that was let go at a task node first takes nothing away from the others.
-/
namespace Workflow

open Relation Function
open Engine

/-- What waits at a node: whether the node is listed, and how many tokens arrived there. -/
structure Spot where
  listed : Bool
  arrivals : Option UInt32
deriving DecidableEq

/-- What comes of a token that enters a node. -/
structure Reception where
  spot : Spot
  /-- How many tasks are created. -/
  tasks : ℕ
  queued : List Token

/-- Where a token goes that leaves a node, guards aside. -/
def Node.ways (n : Node) : List String :=
  match n.kind with
  | .stop => []
  | .condition => n.targets.head?.toList
  | _ => n.targets

namespace Definition

def ways (d : Definition) (n : String) : List String := ((d.node? n).map Node.ways).getD []

/-- How a node receives a token if so many tasks are created there. -/
def receive (d : Definition) (count : String → ℕ) (n : String) (p : Spot) : Reception :=
  match d.node? n with
  | none => ⟨p, 0, []⟩
  | some m =>
    match m.kind with
    | .start | .condition => ⟨p, 0, [.leave n]⟩
    | .stop => ⟨p, 0, []⟩
    | .task _ _ _ => if count n = 0 then ⟨p, 0, [.leave n]⟩ else ⟨⟨true, p.arrivals⟩, count n, []⟩
    | .join declared =>
      if expectedArrivals d m declared ≤ p.arrivals.getD 0 + 1 then
        ⟨⟨false, none⟩, 0, [.leave n]⟩
      else ⟨⟨true, some (p.arrivals.getD 0 + 1)⟩, 0, []⟩

def IsTask (d : Definition) (n : String) : Prop :=
  ∃ m assignees handler reminder, d.node? n = some m ∧ m.kind = .task assignees handler reminder

def IsJoin (d : Definition) (n : String) : Prop :=
  ∃ m declared, d.node? n = some m ∧ m.kind = .join declared

variable {d : Definition} {count : String → ℕ} {n m : String} {p : Spot}

theorem IsTask.ne_of_isJoin (hn : d.IsTask n) (hm : d.IsJoin m) : n ≠ m := by
  rintro rfl
  obtain ⟨k, assignees, handler, reminder, hk, hkind⟩ := hn
  obtain ⟨k', declared, hk', hkind'⟩ := hm
  rw [Option.some.inj (hk.symm.trans hk'), hkind'] at hkind
  cases hkind

theorem mem_targets_of_mem_ways {k : Node} (h : m ∈ k.ways) : m ∈ k.targets := by
  unfold Node.ways at h
  split at h
  · cases h
  · exact List.mem_of_mem_head? (Option.mem_toList.1 h)
  · exact h

theorem leads_of_mem_ways (h : m ∈ d.ways n) : d.Leads n m := by
  unfold ways at h
  cases hn : d.node? n with
  | none =>
    rw [hn] at h
    cases h
  | some k =>
    rw [hn] at h
    exact leads_iff.2 ⟨k, List.mem_of_find?_eq_some hn, by simpa using List.find?_some hn,
      mem_targets_of_mem_ways h⟩

theorem mem_queued_receive {t : Token} (h : t ∈ (d.receive count n p).queued) : t = .leave n := by
  unfold receive at h
  split at h
  · cases h
  · split at h
    · exact List.mem_singleton.1 h
    · exact List.mem_singleton.1 h
    · cases h
    · split at h
      · exact List.mem_singleton.1 h
      · cases h
    · split at h
      · exact List.mem_singleton.1 h
      · cases h

theorem IsTask.tasks_receive (h : d.IsTask n) : (d.receive count n p).tasks = count n := by
  obtain ⟨m, assignees, handler, reminder, hm, hkind⟩ := h
  simp only [receive, hm, hkind]
  split
  · exact Eq.symm ‹_›
  · rfl

/-- A task node where no tasks are created lets a token pass. -/
theorem IsTask.receive_of_none (h : d.IsTask n) (hcount : count n = 0) :
    d.receive count n p = ⟨p, 0, [.leave n]⟩ := by
  obtain ⟨m, assignees, handler, reminder, hm, hkind⟩ := h
  simp only [receive, hm, hkind, if_pos hcount]

end Definition

/-- Whether a token may come to a node as if it entered it. -/
def Engine.Token.Reaches (d : Definition) (j : String) : Token → Prop
  | .enter n => ReflTransGen d.Leads n j
  | .leave n => TransGen d.Leads n j

/-- Where tokens of an instance wait, the nodes of the tasks that were created, and the tokens that are
to move, in no order. -/
@[ext] structure Net where
  spots : String → Spot
  born : Multiset String
  tokens : Multiset Token

namespace Net

variable {d : Definition} {count : String → ℕ} {x y z : Net} {n j : String} {t t' : Token}

/-- The net with one more token to move. -/
def put (t : Token) (x : Net) : Net := { x with tokens := t ::ₘ x.tokens }

/-- What waited at a node is over, and a token leaves it. -/
def letGo (n : String) (x : Net) : Net :=
  ⟨update x.spots n ⟨false, none⟩, x.born, .leave n ::ₘ x.tokens⟩

def letGoIf (p : Prop) [Decidable p] (n : String) (x : Net) : Net := if p then x.letGo n else x

/-- What becomes of the net when a token moves that is not counted among the others. -/
def take (d : Definition) (count : String → ℕ) : Token → Net → Net
  | .enter n, x =>
    { spots := update x.spots n (d.receive count n (x.spots n)).spot
      born := x.born + Multiset.replicate (d.receive count n (x.spots n)).tasks n
      tokens := (d.receive count n (x.spots n)).queued + x.tokens }
  | .leave n, x => { x with tokens := ((d.ways n).map .enter : List Token) + x.tokens }

/-- Whether tokens wait at a join and nothing else leads to it. -/
structure Free (d : Definition) (j : String) (x : Net) : Prop where
  listed : (x.spots j).listed = true
  arrived : (x.spots j).arrivals.isSome = true
  apart : ∀ n, n ≠ j → (x.spots n).listed = true → ¬ ReflTransGen d.Leads n j
  tokens : ∀ t ∈ x.tokens, ¬ t.Reaches d j

/-- One move of the tokens. -/
inductive Step (d : Definition) (count : String → ℕ) : Net → Net → Prop where
  | takes (t : Token) (x : Net) : Step d count (x.put t) (x.take d count t)
  | releases {j : String} {x : Net} (h : x.Free d j) : Step d count x (x.letGo j)

/-- Whether no token moves and none will. -/
structure Still (d : Definition) (x : Net) : Prop where
  tokens : x.tokens = 0
  joins : ∀ j, ¬ x.Free d j

/-! ### In either order -/

theorem letGo_put (n : String) (t : Token) (x : Net) : (x.put t).letGo n = (x.letGo n).put t := by
  unfold put letGo
  rw [Multiset.cons_swap]

theorem letGo_comm (n m : String) (x : Net) : (x.letGo n).letGo m = (x.letGo m).letGo n := by
  unfold letGo
  by_cases hne : n = m
  · rw [hne]
  · simp only [update_comm hne, Multiset.cons_swap]

theorem letGoIf_comm (p q : Prop) [Decidable p] [Decidable q] (n m : String) (x : Net) :
    (x.letGoIf p n).letGoIf q m = (x.letGoIf q m).letGoIf p n := by
  unfold letGoIf
  by_cases hp : p
  · by_cases hq : q
    · simp only [if_pos hp, if_pos hq, letGo_comm n m]
    · simp only [if_pos hp, if_neg hq]
  · simp only [if_neg hp]

theorem take_put (t t' : Token) (x : Net) :
    (x.put t').take d count t = (x.take d count t).put t' := by
  cases t <;> simp only [take, put, Multiset.add_cons]

theorem take_letGo (h : t ≠ .enter n) :
    (x.letGo n).take d count t = (x.take d count t).letGo n := by
  cases t with
  | leave m => simp only [take, letGo, Multiset.add_cons]
  | enter m =>
    have hne : m ≠ n := fun hmn => h (congrArg Token.enter hmn)
    simp only [take, letGo, Multiset.add_cons, update_of_ne hne, update_comm hne.symm]

/-- Tokens at different nodes do not get into each other's way, and two that do the same are alike. -/
theorem take_comm (t t' : Token) :
    (x.take d count t).take d count t' = (x.take d count t').take d count t := by
  by_cases hsame : t = t'
  · rw [hsame]
  cases t with
  | leave n => cases t' <;> simp only [take, add_left_comm]
  | enter n =>
    cases t' with
    | leave m => simp only [take, add_left_comm]
    | enter m =>
      have hne : n ≠ m := fun h => hsame (congrArg Token.enter h)
      simp only [take, update_of_ne hne, update_of_ne hne.symm, update_comm hne,
        add_left_comm, add_right_comm]

/-! ### Joins that nothing leads to -/

theorem Free.of_put (h : (x.put t).Free d j) : x.Free d j :=
  ⟨h.listed, h.arrived, h.apart, fun t' ht' => h.tokens t' (Multiset.mem_cons_of_mem ht')⟩

theorem Free.not_reaches (h : (x.put t).Free d j) : ¬ t.Reaches d j :=
  h.tokens t (Multiset.mem_cons_self _ _)

/-- A token that does not lead to a join does so no more once it has moved. -/
theorem Free.take (h : (x.put t).Free d j) : (x.take d count t).Free d j := by
  have hnot := h.not_reaches
  have hx := h.of_put
  cases t with
  | leave n =>
    refine ⟨hx.listed, hx.arrived, hx.apart, fun t' ht' => ?_⟩
    rcases Multiset.mem_add.1 ht' with hnew | hold
    · obtain ⟨m, hm, rfl⟩ := List.mem_map.1 (Multiset.mem_coe.1 hnew)
      exact fun hreaches => hnot (TransGen.head' (Definition.leads_of_mem_ways hm) hreaches)
    · exact hx.tokens t' hold
  | enter n =>
    have hne : j ≠ n := fun hjn => hnot (hjn ▸ ReflTransGen.refl)
    refine ⟨?_, ?_, fun m hm hlisted => ?_, fun t' ht' => ?_⟩
    · simpa only [Net.take, update_of_ne hne] using hx.listed
    · simpa only [Net.take, update_of_ne hne] using hx.arrived
    · by_cases hmn : m = n
      · exact hmn ▸ hnot
      · simp only [Net.take, update_of_ne hmn] at hlisted
        exact hx.apart m hm hlisted
    · rcases Multiset.mem_add.1 ht' with hnew | hold
      · rw [Definition.mem_queued_receive (Multiset.mem_coe.1 hnew)]
        exact fun hreaches => hnot hreaches.to_reflTransGen
      · exact hx.tokens t' hold

/-- What was listed elsewhere does not lead to a free join when it is let go either. -/
theorem Free.letGo (h : x.Free d j) (hne : n ≠ j) (hn : (x.spots n).listed = true) :
    (x.letGo n).Free d j := by
  have hnot := h.apart n hne hn
  refine ⟨?_, ?_, fun m hm hlisted => ?_, fun t' ht' => ?_⟩
  · simpa only [Net.letGo, update_of_ne hne.symm] using h.listed
  · simpa only [Net.letGo, update_of_ne hne.symm] using h.arrived
  · by_cases hmn : m = n
    · exact hmn ▸ hnot
    · simp only [Net.letGo, update_of_ne hmn] at hlisted
      exact h.apart m hm hlisted
  · rcases Multiset.mem_cons.1 ht' with rfl | hold
    · exact fun hreaches => hnot hreaches.to_reflTransGen
    · exact h.tokens t' hold

theorem Free.take_letGo (h : (x.put t).Free d j) :
    (x.letGo j).take d count t = (x.take d count t).letGo j :=
  Net.take_letGo fun ht => h.not_reaches (by rw [ht]; exact .refl)

/-! ### The same rest -/

/-- Two moves of a net may come in either order. -/
theorem Step.diamond (hy : Step d count x y) (hz : Step d count x z) :
    y = z ∨ ∃ w, Step d count y w ∧ Step d count z w := by
  cases hy with
  | takes t u =>
    generalize hx : u.put t = x at hz
    cases hz with
    | takes t' v =>
      obtain ⟨hspots, hborn, htokens⟩ := Net.ext_iff.1 hx
      change u.spots = v.spots at hspots
      change u.born = v.born at hborn
      change t ::ₘ u.tokens = t' ::ₘ v.tokens at htokens
      rcases Multiset.cons_eq_cons.1 htokens with ⟨rfl, hrest⟩ | ⟨-, rest, hu, hv⟩
      · exact Or.inl (congrArg (Net.take d count t) (Net.ext hspots hborn hrest))
      · -- what is left without either token
        have hu : u = (⟨u.spots, u.born, rest⟩ : Net).put t' := Net.ext rfl rfl hu
        have hv : v = (⟨u.spots, u.born, rest⟩ : Net).put t := Net.ext hspots.symm hborn.symm hv
        rw [hu, hv, take_put, take_put]
        refine Or.inr ⟨_, .takes t' _, ?_⟩
        rw [take_comm]
        exact .takes t _
    | releases h =>
      subst hx
      refine Or.inr ⟨_, .releases h.take, ?_⟩
      rw [letGo_put, ← h.take_letGo]
      exact .takes t _
  | releases h =>
    cases hz with
    | takes t u =>
      refine Or.inr ⟨(u.take d count t).letGo _, ?_, .releases h.take⟩
      rw [letGo_put, ← h.take_letGo]
      exact .takes t _
    | @releases k _ h' =>
      rename_i j
      by_cases hne : j = k
      · exact Or.inl (by rw [hne])
      · refine Or.inr ⟨_, .releases (h'.letGo hne h.listed), ?_⟩
        rw [letGo_comm]
        exact .releases (h.letGo (Ne.symm hne) h'.listed)

theorem Still.not_step (h : x.Still d) : ¬ Step d count x y := by
  intro hstep
  cases hstep with
  | takes t u => exact Multiset.cons_ne_zero h.tokens
  | releases hfree => exact h.joins _ hfree

/-- Two nets without further moves that a net comes to are the same. -/
theorem Still.eq (hy : y.Still d) (hz : z.Still d) (hxy : ReflTransGen (Step d count) x y)
    (hxz : ReflTransGen (Step d count) x z) : y = z := by
  obtain ⟨w, hyw, hzw⟩ := church_rosser (fun a b c hab hac => by
    rcases hab.diamond hac with rfl | ⟨w, hbw, hcw⟩
    · exact ⟨b, .refl, .refl⟩
    · exact ⟨w, .single hbw, .single hcw⟩) hxy hxz
  have hend : ∀ {v : Net}, v.Still d → ReflTransGen (Step d count) v w → v = w := by
    intro v hv hvw
    rcases hvw.cases_head with hsame | ⟨u, hstep, -⟩
    · exact hsame
    · exact absurd hstep hv.not_step
  exact (hend hy hyw).trans (hend hz hzw).symm

/-! ### Tokens let go early -/

theorem born_le_of_step (h : Step d count x y) : x.born ≤ y.born := by
  cases h with
  | takes t u =>
    cases t with
    | enter n => exact Multiset.le_add_right _ _
    | leave n => exact le_refl _
  | releases h => exact le_refl _

theorem take_enter_of_none (h : d.IsTask n) (hcount : count n = 0) :
    x.take d count (.enter n) = x.put (.leave n) := by
  simp only [take, put, h.receive_of_none hcount, update_eq_self, Multiset.replicate_zero, add_zero,
    Multiset.coe_singleton, Multiset.singleton_add]

/-- A move may come after a task node has let its token go, if it creates no task there. -/
theorem Step.letGo (h : Step d count x y) (htask : d.IsTask n)
    (hn : x.spots n = ⟨true, none⟩) (hborn : n ∉ y.born) :
    Step d count (x.letGo n) (y.letGo n) ∧ y.spots n = ⟨true, none⟩ := by
  cases h with
  | takes t u =>
    have hu : u.spots n = ⟨true, none⟩ := hn
    rw [letGo_put]
    by_cases ht : t = .enter n
    · -- no tasks are created there, so that the token passes
      subst ht
      have hcount : count n = 0 := by
        by_contra hsome
        refine hborn (Multiset.mem_add.2 (Or.inr (Multiset.mem_replicate.2 ⟨?_, rfl⟩)))
        rwa [htask.tasks_receive]
      rw [take_enter_of_none htask hcount, letGo_put, ← take_enter_of_none htask hcount]
      exact ⟨.takes _ _, hu⟩
    · refine ⟨?_, ?_⟩
      · rw [← take_letGo ht]
        exact .takes _ _
      · cases t with
        | leave m => exact hu
        | enter m =>
          have hne : n ≠ m := fun hnm => ht (congrArg Token.enter hnm.symm)
          simpa only [take, update_of_ne hne] using hu
  | @releases j _ h =>
    have hne : n ≠ j := by
      rintro rfl
      have harrived := h.arrived
      rw [hn] at harrived
      cases harrived
    refine ⟨?_, ?_⟩
    · rw [letGo_comm]
      exact .releases (h.letGo hne (by rw [hn]))
    · simpa only [Net.letGo, update_of_ne hne] using hn

/-- All moves that create no task at a node may come after the node has let its token go. -/
theorem steps_letGo (h : ReflTransGen (Step d count) x y) (htask : d.IsTask n)
    (hn : x.spots n = ⟨true, none⟩) (hborn : n ∉ y.born) :
    ReflTransGen (Step d count) (x.letGo n) (y.letGo n) ∧ y.spots n = ⟨true, none⟩ := by
  induction h with
  | refl => exact ⟨.refl, hn⟩
  | tail _ hstep ih =>
    obtain ⟨hsteps, hspot⟩ := ih fun hmem =>
      hborn (Multiset.mem_of_le (born_le_of_step hstep) hmem)
    obtain ⟨hstep', hspot'⟩ := hstep.letGo htask hspot hborn
    exact ⟨hsteps.tail hstep', hspot'⟩

end Net

end Workflow
