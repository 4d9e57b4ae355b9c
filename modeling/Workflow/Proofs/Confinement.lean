import Workflow.Proofs.Lookup
import Workflow.Proofs.Starvation
import Workflow.Proofs.Waiting

/-!
How far a walk reaches. Tokens that leave the nodes of a region only enter what these lead to, and
whatever waits outside stays as it was, as long as no join outside is released (`Move.confined`). A join
does not starve for tokens that move elsewhere (`Region.below_covers`).
-/
namespace Workflow

open Relation
open Engine

/-- Whether the same waits at a node in two instances. -/
structure Instance.AgreesAt (i j : Instance) (n : String) : Prop where
  listed : n ∈ i.currentNodes ↔ n ∈ j.currentNodes
  arrived : i.joinArrivals.contains n = j.joinArrivals.contains n
  stuck : i.StuckAt n ↔ j.StuckAt n

namespace Instance.AgreesAt

variable {i j k : Instance} {n : String}

theorem refl (i : Instance) (n : String) : i.AgreesAt i n := ⟨Iff.rfl, rfl, Iff.rfl⟩

theorem trans (h : i.AgreesAt j n) (h' : j.AgreesAt k n) : i.AgreesAt k n :=
  ⟨h.listed.trans h'.listed, h.arrived.trans h'.arrived, h.stuck.trans h'.stuck⟩

end Instance.AgreesAt

namespace Engine

/-! ### Regions -/

/-- Nodes that tokens may leave, and among them those that tokens may enter. -/
structure Region (d : Definition) where
  left : String → Prop
  entered : String → Prop
  left_of_entered : ∀ {n}, entered n → left n
  next : ∀ {a b}, left a → d.Leads a b → entered b

namespace Region

variable {d : Definition}

/-- A node and what lies behind it. -/
def below (d : Definition) (a : String) : Region d where
  left := ReflTransGen d.Leads a
  entered := d.Downstream a
  left_of_entered := TransGen.to_reflTransGen
  next := TransGen.tail'

/-- All that can be reached from the start node. -/
def fromStart (d : Definition) : Region d where
  left := d.FromStart
  entered := d.FromStart
  left_of_entered h := h
  next h hab := h.imp fun _ h => ⟨h.1, h.2.tail hab⟩

def Allows (g : Region d) : Token → Prop
  | .enter n => g.entered n
  | .leave n => g.left n

end Region

/-- A walk from a step on that has kept to a region. -/
structure Confined {d : Definition} (g : Region d) (s : Step) (x : Walk) : Prop where
  queue : ∀ t ∈ x.queue, g.Allows t
  created : ∀ t ∈ x.step.created, t ∈ s.created ∨ g.entered t.node
  outside : ∀ n, ¬ g.left n → x.step.record.AgreesAt s.record n

/-- No join outside a region starves on a walk that keeps to it. -/
def Region.Covers {d : Definition} (g : Region d) (s : Step) : Prop :=
  ∀ x, Confined g s x → ∀ join, starvedJoin? d x.step.record = some join → g.left join

section Steps

variable {e : Engine} {d : Definition} {n : Node} {s s' : Step} {supply supply' : Supply}
  {m : String}

theorem agreesAt_wait {node : String} (hm : m ≠ node) : (s.wait node).record.AgreesAt s.record m where
  listed := by simp [Step.wait, hm]
  arrived := rfl
  stuck := Iff.rfl

theorem agreesAt_flag (hm : m ≠ n.id) : (s.flag n.id).record.AgreesAt s.record m where
  listed := (agreesAt_wait hm).listed
  arrived := rfl
  stuck := by
    rw [stuckAt_flag]
    exact or_iff_right hm

theorem agreesAt_release {join : String} (hm : m ≠ join) :
    (s.release join).record.AgreesAt s.record m where
  listed := by simp [Step.release, Step.depart, hm]
  arrived := by simp [Step.release, Step.depart, Dict.contains_erase, hm]
  stuck := Iff.rfl

theorem agreesAt_arrive {join : String} (hm : m ≠ join) :
    (s.arrive join).2.record.AgreesAt s.record m where
  listed := Iff.rfl
  arrived := by simp [Step.arrive, Dict.contains_insert, hm]
  stuck := Iff.rfl

theorem agreesAt_leave (targets : List String) (hm : m ≠ n.id) :
    (leave n targets s).record.AgreesAt s.record m := by
  unfold leave
  split
  · exact agreesAt_flag hm
  · exact .refl _ _

variable {more : List Token} (h : Entry e d n supply s s' more supply')
include h

/-- To enter a node changes what waits there only. -/
theorem Entry.agreesAt (hm : m ≠ n.id) : s'.record.AgreesAt s.record m := by
  cases h with
  | passes hk => exact .refl _ _
  | ends hk => exact .refl _ _
  | idles hk hh hts => exact .refl _ _
  | parks hk hh hts hne hown =>
    have hwait := agreesAt_wait (s := s) hm
    exact hwait
  | fires hk hfull => exact (agreesAt_release hm).trans (agreesAt_arrive hm)
  | gathers hk hshort => exact (agreesAt_wait hm).trans (agreesAt_arrive hm)

theorem Entry.created_at {t : Task} (ht : t ∈ s'.created) : t ∈ s.created ∨ t.node = n.id := by
  cases h with
  | passes hk => exact Or.inl ht
  | ends hk => exact Or.inl ht
  | idles hk hh hts => exact Or.inl ht
  | parks hk hh hts hne hown =>
    exact (List.mem_append.1 ht).imp_right fun ht => (hown t ht).2
  | fires hk hfull => exact Or.inl ht
  | gathers hk hshort => exact Or.inl ht

theorem Entry.queued {t : Token} (ht : t ∈ more) : t = .leave n.id := by
  cases h with
  | passes hk => exact List.mem_singleton.1 ht
  | ends hk => cases ht
  | idles hk hh hts => exact List.mem_singleton.1 ht
  | parks hk hh hts hne hown => cases ht
  | fires hk hfull => exact List.mem_singleton.1 ht
  | gathers hk hshort => cases ht

end Steps

/-! ### Walks -/

variable {e : Engine} {d : Definition} {g : Region d} {s : Step} {supply supply' : Supply}

theorem Confined.of_queue {queue : List Token} (hq : ∀ t ∈ queue, g.Allows t) :
    Confined g s ⟨0, queue, s⟩ :=
  ⟨hq, fun _ ht => Or.inl ht, fun _ _ => .refl _ _⟩

theorem Move.confined {x y : Walk} (h : Move e d supply x supply' y) (hx : Confined g s x)
    (hg : g.Covers s) : Confined g s y := by
  cases h with
  | @enters id entered queue s₁ n vars s₂ more _ _ hn hentry =>
    obtain ⟨-, rfl⟩ := node?_spec hn
    have hin : g.entered n.id := hx.queue _ (List.mem_cons_self ..)
    refine ⟨fun t ht => ?_, fun t ht => ?_, fun m hm => ?_⟩
    · rcases List.mem_append.1 ht with ht | ht
      · exact hx.queue t (List.mem_cons_of_mem _ ht)
      · rw [hentry.queued ht]
        exact g.left_of_entered hin
    · rcases hentry.created_at ht with ht | hnode
      · exact hx.created t ht
      · exact Or.inr (hnode ▸ hin)
    · have hne : m ≠ n.id := fun hmn => hm (hmn ▸ g.left_of_entered hin)
      have hvars : (s₁.setVars vars).record.AgreesAt s₁.record m := ⟨Iff.rfl, rfl, Iff.rfl⟩
      exact ((hentry.agreesAt hne).trans hvars).trans (hx.outside m hm)
  | @leaves id entered queue s₁ n targets _ hn htargets =>
    obtain ⟨hmem, rfl⟩ := node?_spec hn
    have hin : g.left n.id := hx.queue _ (List.mem_cons_self ..)
    refine ⟨fun t ht => ?_, fun t ht => ?_, fun m hm => ?_⟩
    · rcases List.mem_append.1 ht with ht | ht
      · exact hx.queue t (List.mem_cons_of_mem _ ht)
      · obtain ⟨b, hb, rfl⟩ := List.mem_map.1 ht
        have hleads : d.Leads n.id b :=
          Definition.leads_iff.2 ⟨n, hmem, rfl, mem_targets_of_route htargets hb⟩
        exact g.next hin hleads
    · refine hx.created t ?_
      unfold leave at ht
      split at ht <;> exact ht
    · have hne : m ≠ n.id := fun hmn => hm (hmn ▸ hin)
      exact (agreesAt_leave targets hne).trans (hx.outside m hm)
  | @releases join entered s₁ _ hstarved =>
    -- the one token that comes from nowhere in the queue
    have hin : g.left join := hg _ hx join hstarved
    refine ⟨fun t ht => ?_, hx.created, fun m hm => ?_⟩
    · rw [List.mem_singleton.1 ht]
      exact hin
    · have hne : m ≠ join := fun hmj => hm (hmj ▸ hin)
      exact (agreesAt_release hne).trans (hx.outside m hm)

/-- A walk that begins in a region keeps to it. -/
theorem advance_confined {queue : List Token} {s' : Step} {a a' : Ambient}
    (hq : ∀ t ∈ queue, g.Allows t) (hg : g.Covers s)
    (h : advance e d ⟨0, queue, s⟩ a = (.ok s', a')) :
    (∃ x, Confined g s x ∧ x.step = s') ∧ starvedJoin? d s'.record = none := by
  obtain ⟨y, hy, -, hstarved, rfl⟩ := advance_keeps (P := fun _ x => Confined g s x)
    (fun hm hx => hm.confined hx hg) (.of_queue hq) h
  exact ⟨⟨y, hy, rfl⟩, hstarved⟩

/-! ### Regions that cover a step -/

/-- Where all that waits at the start of a walk lies in a region, no join outside can starve. -/
theorem Region.covers_of_listed (hs : ∀ n, n ∈ s.record.currentNodes → g.left n) : g.Covers s := by
  intro x hx join hstarved
  by_contra hout
  have hlisted := (mem_starvedJoins_iff.1 (mem_starvedJoins_of_starvedJoin? hstarved)).1
  exact hout (hs join ((hx.outside join hout).listed.1 hlisted))

/-- Where no join starves, and tokens move that a node lets go, only joins behind the node can starve:
what another join waits for is either still in its place or has come from the node itself. -/
theorem Region.below_covers {i : Instance} {a : String} (hi : starvedJoin? d i = none)
    (hs : ∀ n, ¬ (below d a).left n → s.record.AgreesAt i n) : (below d a).Covers s := by
  intro x hx join hstarved
  by_contra hout
  have hagrees := fun n (hn : ¬ (below d a).left n) => (hx.outside n hn).trans (hs n hn)
  obtain ⟨hlisted, harrived, hfree⟩ :=
    mem_starvedJoins_iff.1 (mem_starvedJoins_of_starvedJoin? hstarved)
  -- a join outside would have starved before the step already
  have hwaits : join ∈ starvedJoins d i := by
    refine mem_starvedJoins_iff.2 ⟨(hagrees join hout).listed.1 hlisted,
      (hagrees join hout).arrived ▸ harrived, fun m hm hlive hpath => ?_⟩
    have hmout : ¬ (below d a).left m := fun hin =>
      hout (hin.trans (Definition.mem_reachableFrom.1 hpath).2.2)
    exact hfree m ((hagrees m hmout).listed.2 hm) ((hagrees m hmout).arrived.trans hlive) hpath
  exact starvedJoin?_eq_none_iff.1 hi join hwaits

end Engine

end Workflow
