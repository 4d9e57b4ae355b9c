import Workflow.Proofs.Net
import Workflow.Proofs.Validation
import Workflow.Proofs.Waiting

/-!
Definitions without guards and flow handlers. A token that is not at an end can always go on there, once
the definition passed the checks (`Definition.goesOn_of_check`), and goes the same ways whatever the
variables are (`route_of_unguarded`). None of this depends on the work times of reminders, in which
copies of a definition differ.
-/
namespace Workflow

open Relation Function
open Engine

/-! ### Definitions -/

namespace Definition

/-- Whether every transition may be taken whatever the variables are. -/
def Unguarded (d : Definition) : Prop := ∀ n ∈ d.nodes, ∀ t ∈ n.transitions, t.condition = none

/-- Whether no node lets a flow handler change the variables. -/
def Unhandled (d : Definition) : Prop := ∀ n ∈ d.nodes, n.handler = none

/-- Whether a token that is not at an end can always go on. -/
def GoesOn (d : Definition) : Prop :=
  ∀ n m, d.node? n = some m → m.kind.isStop = false → d.ways n ≠ []

/-- Whether no two different joins lead to each other. -/
def JoinsOrdered (d : Definition) : Prop :=
  ∀ a b, d.IsJoin a → d.IsJoin b → d.Downstream a b → d.Downstream b a → a = b

variable {d d' : Definition} {n : String} {m : Node}

instance : Decidable d.Unguarded :=
  inferInstanceAs (Decidable (∀ n ∈ d.nodes, ∀ t ∈ n.transitions, t.condition = none))

instance : Decidable d.Unhandled := inferInstanceAs (Decidable (∀ n ∈ d.nodes, n.handler = none))

theorem Acyclic.joinsOrdered (hd : d.Acyclic) : d.JoinsOrdered :=
  fun a _ _ _ hab hba => absurd (hab.trans hba) (hd a)

theorem ways_eq (h : d.node? n = some m) : d.ways n = m.ways := by rw [ways, h]; rfl

theorem ways_ne_nil_of_transitions (hkind : m.kind.isStop = false) (h : m.transitions ≠ []) :
    m.ways ≠ [] := by
  have htargets : m.targets ≠ [] := fun hnil => h (List.map_eq_nil_iff.1 hnil)
  unfold Node.ways
  split
  · rename_i hstop
    rw [hstop] at hkind
    cases hkind
  · cases hm : m.targets with
    | nil => exact absurd hm htargets
    | cons target targets => simp
  · exact htargets

theorem transitions_of_checkKind (h : checkKind m = .ok ()) (hkind : m.kind.isStop = false) :
    m.transitions ≠ [] := by
  have hempty : ∀ err, refuseIf m.transitions.isEmpty err = .ok () → m.transitions ≠ [] :=
    fun err hrefuse => by simpa using of_refuseIf hrefuse
  unfold checkKind at h
  split at h
  · rename_i hstop
    rw [hstop] at hkind
    cases hkind
  · obtain ⟨u, hu, -⟩ := of_bind_eq_ok h
    exact hempty _ hu
  · exact hempty _ h

theorem checkKind_of_checkNodes {ns : List Node} (h : d.checkNodes ns = .ok ()) :
    ∀ m ∈ ns, checkKind m = .ok () := by
  induction ns with
  | nil => exact fun m hm => nomatch hm
  | cons m ns ih =>
    obtain ⟨u, hkind, h⟩ := of_bind_eq_ok h
    obtain ⟨u', -, h⟩ := of_bind_eq_ok h
    intro k hk
    rcases List.mem_cons.1 hk with rfl | hk
    · exact hkind
    · exact ih h k hk

theorem checkNodes_of_validate (h : d.validate = .ok ()) : d.checkNodes d.nodes = .ok () := by
  obtain ⟨u, -, h⟩ := of_bind_eq_ok h
  obtain ⟨u, -, h⟩ := of_bind_eq_ok h
  obtain ⟨u, -, h⟩ := of_bind_eq_ok h
  obtain ⟨start, -, h⟩ := of_bind_eq_ok h
  obtain ⟨u, -, h⟩ := of_bind_eq_ok h
  obtain ⟨u, -, h⟩ := of_bind_eq_ok h
  obtain ⟨u, hnodes, -⟩ := of_bind_eq_ok h
  exact hnodes

/-- In a definition that passed the checks, a token that is not at an end can go on. -/
theorem goesOn_of_check {e : Engine} (h : check e d = .ok ()) : d.GoesOn := by
  intro n m hm hkind
  obtain ⟨u, hvalid, -⟩ := of_bind_eq_ok h
  have hnodes := checkNodes_of_validate (of_mapError_eq_ok hvalid)
  rw [ways_eq hm]
  exact ways_ne_nil_of_transitions hkind (transitions_of_checkKind
    (checkKind_of_checkNodes hnodes m (List.mem_of_find?_eq_some hm)) hkind)

/-! ### Apart from work times -/

theorem node?_anytime : d.anytime.node? n = (d.node? n).map Node.anytime := by
  rw [node?, node?, anytime, List.find?_map]
  rfl

theorem exists_node?_of_anytime (h : d'.anytime = d.anytime) (hm : d'.node? n = some m) :
    ∃ k, d.node? n = some k ∧ k.kind.anytime = m.kind.anytime := by
  have hsame : (d.node? n).map Node.anytime = (d'.node? n).map Node.anytime := by
    rw [← node?_anytime, ← node?_anytime, h]
  rw [hm] at hsame
  obtain ⟨k, hk, hsame⟩ := Option.map_eq_some_iff.1 hsame
  exact ⟨k, hk, congrArg Node.kind hsame⟩

theorem mem_of_anytime (h : d'.anytime = d.anytime) (hm : m ∈ d'.nodes) :
    ∃ k ∈ d.nodes, k.anytime = m.anytime := by
  have hnodes : d'.nodes.map Node.anytime = d.nodes.map Node.anytime :=
    congrArg Definition.nodes h
  exact List.mem_map.1 (hnodes ▸ List.mem_map_of_mem hm)

theorem Unguarded.of_anytime (hd : d.Unguarded) (h : d'.anytime = d.anytime) : d'.Unguarded := by
  intro m hm t ht
  obtain ⟨k, hk, hsame⟩ := mem_of_anytime h hm
  have htransitions : k.transitions = m.transitions := (congrArg Node.transitions hsame :)
  exact hd k hk t (htransitions ▸ ht)

theorem Unhandled.of_anytime (hd : d.Unhandled) (h : d'.anytime = d.anytime) : d'.Unhandled := by
  intro m hm
  obtain ⟨k, hk, hsame⟩ := mem_of_anytime h hm
  have hhandler : k.handler = m.handler := (congrArg Node.handler hsame :)
  exact hhandler ▸ hd k hk

theorem ways_anytime : m.anytime.ways = m.ways := by
  have htargets : m.anytime.targets = m.targets := rfl
  unfold Node.ways
  rw [htargets, Node.anytime]
  cases m.kind <;> rfl

theorem ways_of_anytime (h : d'.anytime = d.anytime) : d'.ways n = d.ways n := by
  have hways : ∀ d : Definition, d.anytime.ways n = d.ways n := by
    intro d
    rw [ways, ways, node?_anytime]
    cases d.node? n with
    | none => rfl
    | some m => exact ways_anytime
  rw [← hways d', h, hways d]

theorem transitions_anytime : d.anytime.transitions = d.transitions := by
  rw [transitions, transitions, anytime, List.flatMap_map]
  rfl

theorem receive_of_anytime {count : String → ℕ} {p : Spot} (h : d'.anytime = d.anytime) :
    d'.receive count n p = d.receive count n p := by
  have hreceive : ∀ d : Definition, d.anytime.receive count n p = d.receive count n p := by
    intro d
    have hexpected : ∀ m declared,
        expectedArrivals d.anytime (Node.anytime m) declared = expectedArrivals d m declared := by
      intro m declared
      unfold expectedArrivals incomingCount
      rw [transitions_anytime]
      rfl
    unfold receive
    rw [node?_anytime]
    cases d.node? n with
    | none => rfl
    | some m =>
      have hkind : m.anytime.kind = m.kind.anytime := rfl
      simp only [Option.map_some, hexpected, hkind]
      cases m.kind <;> rfl
  rw [← hreceive d', h, hreceive d]

theorem isTask_of_anytime (h : d'.anytime = d.anytime) (hn : d'.IsTask n) : d.IsTask n := by
  obtain ⟨m, assignees, handler, reminder, hm, hkind⟩ := hn
  obtain ⟨k, hk, hkinds⟩ := exists_node?_of_anytime h hm
  rw [hkind] at hkinds
  cases hk' : k.kind with
  | task assignees' handler' reminder' => exact ⟨k, assignees', handler', reminder', hk, hk'⟩
  | _ => rw [hk'] at hkinds; cases hkinds

theorem isJoin_of_anytime (h : d'.anytime = d.anytime) (hn : d'.IsJoin n) : d.IsJoin n := by
  obtain ⟨m, declared, hm, hkind⟩ := hn
  obtain ⟨k, hk, hkinds⟩ := exists_node?_of_anytime h hm
  rw [hkind] at hkinds
  cases hk' : k.kind with
  | join declared' => exact ⟨k, declared', hk, hk'⟩
  | _ => rw [hk'] at hkinds; cases hkinds

theorem isStop_anytime (k : NodeKind) : k.anytime.isStop = k.isStop := by
  cases k <;> rfl

theorem GoesOn.of_anytime (hd : d.GoesOn) (h : d'.anytime = d.anytime) : d'.GoesOn := by
  intro n m hm hkind
  obtain ⟨k, hk, hsame⟩ := exists_node?_of_anytime h hm
  rw [ways_of_anytime h]
  refine hd n k hk ?_
  rw [← isStop_anytime, hsame, isStop_anytime, hkind]

theorem JoinsOrdered.of_anytime (hd : d.JoinsOrdered) (h : d'.anytime = d.anytime) :
    d'.JoinsOrdered := by
  intro a b ha hb hab hba
  rw [Downstream, leads_of_anytime h] at hab hba
  exact hd a b (isJoin_of_anytime h ha) (isJoin_of_anytime h hb) hab hba

end Definition

section Copies

variable {d d' : Definition} {count : String → ℕ} {x y : Net} {j : String}

theorem Engine.Token.reaches_of_anytime {t : Token} (h : d'.anytime = d.anytime)
    (ht : t.Reaches d j) : t.Reaches d' j := by
  cases t <;> simpa only [Token.Reaches, Definition.leads_of_anytime h] using ht

theorem Net.Free.of_anytime (h : d'.anytime = d.anytime) (hx : x.Free d' j) : x.Free d j :=
  ⟨hx.listed, hx.arrived, Definition.leads_of_anytime h ▸ hx.apart,
    fun t ht hreaches => hx.tokens t ht (Token.reaches_of_anytime h hreaches)⟩

theorem Net.Still.of_anytime (h : d'.anytime = d.anytime) (hx : x.Still d') : x.Still d :=
  ⟨hx.tokens, fun j hfree => hx.joins j (hfree.of_anytime h.symm)⟩

/-- The moves of the net are those of every copy of its definition. -/
theorem Net.Step.of_anytime (h : d'.anytime = d.anytime) (hstep : Net.Step d' count x y) :
    Net.Step d count x y := by
  have htake : ∀ t (x : Net), x.take d' count t = x.take d count t := by
    intro t x
    cases t with
    | enter n => simp only [Net.take, Definition.receive_of_anytime h]
    | leave n => simp only [Net.take, Definition.ways_of_anytime h]
  cases hstep with
  | takes t u =>
    rw [htake]
    exact .takes t u
  | releases hfree => exact .releases (hfree.of_anytime h)

end Copies

/-! ### Routes -/

section Routes

variable {decide : Condition → Except Guard.Fault Bool × List String} {ts : List Transition}
  (h : ∀ t ∈ ts, t.condition = none)
include h

theorem takeAll_of_unguarded : (takeAll decide ts).1 = .ok (ts.map (·.target)) := by
  induction ts with
  | nil => rfl
  | cons t ts ih =>
    obtain ⟨target, condition⟩ := t
    obtain rfl : condition = none := h _ List.mem_cons_self
    simp only [takeAll, ih fun t ht => h t (List.mem_cons_of_mem _ ht)]
    rfl

theorem takeFirst_of_unguarded (fallback : Option String) : (takeFirst decide fallback ts).1 =
    .ok (fallback.or (ts.map (·.target)).head?).toList := by
  induction ts generalizing fallback with
  | nil => cases fallback <;> rfl
  | cons t ts ih =>
    obtain ⟨target, condition⟩ := t
    obtain rfl : condition = none := h _ List.mem_cons_self
    rw [takeFirst, ih fun t ht => h t (List.mem_cons_of_mem _ ht)]
    cases fallback <;> rfl

end Routes

/-- Without guards, a token goes the ways of its node. -/
theorem route_of_unguarded {ev : Guard.Evaluator} {n : Node} {vars : Variables}
    (h : ∀ t ∈ n.transitions, t.condition = none) : (route ev n vars).1 = .ok n.ways := by
  unfold route Node.ways
  cases n.kind with
  | condition =>
    rw [takeFirst_of_unguarded h]
    rfl
  | stop => rfl
  | _ => exact takeAll_of_unguarded h

end Workflow
