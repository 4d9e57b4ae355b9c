import Workflow.Proofs.Paths
import Workflow.Proofs.Unguarded

/-!
What the checks of a definition come to all together. Each of them is first read on its own, whatever
definition it is given, malformed ones included; the order in which they come decides only which error
is reported.
-/
namespace Workflow.Definition

open Relation
open Engine (of_bind_eq_ok)

/-- What the start node of a definition has to be. -/
structure StartsAt (d : Definition) (start : Node) : Prop where
  sole : d.nodes.filter (·.kind.isStart) = [start]
  leaves : ∃ target, start.transitions = [.plain target]
  untargeted : ∀ t ∈ d.transitions, t.target ≠ start.id
  arrives : ∃ stop ∈ d.nodes, stop.kind = .stop ∧ ReflTransGen d.Leads start.id stop.id

/-- The rules for the shape of a definition. -/
structure WellFormed (d : Definition) : Prop where
  named : ∃ c ∈ d.id.toList, Text.isBlank c = false
  inhabited : d.nodes ≠ []
  unique : (d.nodes.map (·.id)).Nodup
  start : ∃ start, d.StartsAt start
  stop : ∃ stop ∈ d.nodes, stop.kind = .stop
  ends : ∀ n ∈ d.nodes, n.transitions = [] ↔ n.kind = .stop
  targets : ∀ t ∈ d.transitions, ∃ n ∈ d.nodes, n.id = t.target
  guards : ∀ t ∈ d.transitions, ∀ c, t.condition = some c → c.groups ≠ [] ∧ [] ∉ c.groups
  joins : ∀ n ∈ d.nodes, n.kind ≠ .join (some 0)
  timeout : d.timeoutSeconds ≠ some 0

variable {d : Definition} {n : Node}

/-! ### One check after another -/

theorem bind_eq_ok_iff {α β ε : Type} {x : Except ε α} {f : α → Except ε β} {v : β} :
    (x >>= f) = .ok v ↔ ∃ u, x = .ok u ∧ f u = .ok v := by
  refine ⟨of_bind_eq_ok, ?_⟩
  rintro ⟨u, rfl, h⟩
  exact h

theorem bind_unit_eq_ok_iff {α ε : Type} {x : Except ε Unit} {f : Unit → Except ε α} {v : α} :
    (x >>= f) = .ok v ↔ x = .ok () ∧ f () = .ok v :=
  bind_eq_ok_iff.trans ⟨fun ⟨_, hx, hf⟩ => ⟨hx, hf⟩, fun ⟨hx, hf⟩ => ⟨(), hx, hf⟩⟩

theorem refuseIf_eq_ok_iff {bad : Bool} {err : DefinitionError} :
    refuseIf bad err = .ok () ↔ bad = false := by
  refine ⟨of_refuseIf, ?_⟩
  rintro rfl
  rfl

/-! ### Nodes as a whole -/

theorem firstDuplicate?_eq_none_iff {seen : List String} {ns : List Node} :
    firstDuplicate? seen ns = none ↔ (ns.map (·.id)).Nodup ∧ ∀ n ∈ ns, n.id ∉ seen := by
  induction ns generalizing seen with
  | nil => simp [firstDuplicate?]
  | cons n ns ih =>
    by_cases hseen : n.id ∈ seen
    · simp [firstDuplicate?, hseen]
    · simp only [firstDuplicate?, List.contains_iff_mem, hseen, if_false, ih, List.mem_cons, not_or,
        List.map_cons, List.nodup_cons, List.mem_map, not_exists, not_and, forall_eq_or_imp]
      constructor
      · rintro ⟨hunique, hnew⟩
        exact ⟨⟨fun m hm => (hnew m hm).1, hunique⟩, not_false, fun m hm => (hnew m hm).2⟩
      · rintro ⟨⟨hdiffers, hunique⟩, -, hnew⟩
        exact ⟨hunique, fun m hm => ⟨hdiffers m hm, hnew m hm⟩⟩

theorem checkUnique_eq_ok_iff : d.checkUnique = .ok () ↔ (d.nodes.map (·.id)).Nodup := by
  have hnone : d.checkUnique = .ok () ↔ firstDuplicate? [] d.nodes = none := by
    unfold checkUnique
    cases firstDuplicate? [] d.nodes <;> simp
  rw [hnone, firstDuplicate?_eq_none_iff]
  simp

theorem soleStart_eq_ok_iff :
    d.soleStart = .ok n ↔ d.nodes.filter (·.kind.isStart) = [n] := by
  unfold soleStart
  split
  · rename_i start hone
    simp [hone]
  · rename_i hnone
    simp [hnone]
  · rename_i hmany _
    exact iff_of_false (fun h => nomatch h) (hmany n)

theorem isStop_iff {k : NodeKind} : k.isStop = true ↔ k = .stop := by
  cases k <;> simp [NodeKind.isStop]

theorem any_isStop_iff : d.nodes.any (·.kind.isStop) = true ↔ ∃ stop ∈ d.nodes, stop.kind = .stop := by
  simp only [List.any_eq_true, isStop_iff]

theorem isBlankText_eq_false_iff {s : String} :
    Text.isBlankText s = false ↔ ∃ c ∈ s.toList, Text.isBlank c = false := by
  simp [Text.isBlankText]

/-! ### The start node -/

theorem incomingCount_eq_zero_iff {id : String} :
    d.incomingCount id = 0 ↔ ∀ t ∈ d.transitions, t.target ≠ id := by
  simp [incomingCount]

theorem checkStart_eq_ok_iff : d.checkStart n = .ok () ↔
    (∃ target, n.transitions = [.plain target]) ∧ ∀ t ∈ d.transitions, t.target ≠ n.id := by
  unfold checkStart
  dsimp only
  split
  · rename_i target hts
    rw [refuseIf_eq_ok_iff, decide_eq_false_iff_not, Nat.not_lt, Nat.le_zero,
      incomingCount_eq_zero_iff]
    exact (and_iff_right ⟨target, hts⟩).symm
  · rename_i hother
    refine iff_of_false (fun h => nomatch h) ?_
    rintro ⟨⟨target, hts⟩, -⟩
    exact hother target hts

/-- The search from a node of the definition finds an end exactly when a path leads to one. -/
theorem reachesStop_iff {id : String} (hid : d.hasNode id = true) : d.reachesStop id = true ↔
    ∃ stop ∈ d.nodes, stop.kind = .stop ∧ ReflTransGen d.Leads id stop.id := by
  rw [reachesStop, List.any_eq_true]
  refine exists_congr fun stop => and_congr_right fun hstop => ?_
  have hnode : d.hasNode stop.id = true := hasNode_iff.2 ⟨stop, hstop, rfl⟩
  have hreachable : (d.reachableFrom id).contains stop.id = true ↔ ReflTransGen d.Leads id stop.id :=
    mem_reachableFrom.trans (by simp [hid, hnode])
  rw [Bool.and_eq_true, isStop_iff, hreachable]

/-! ### Nodes one by one -/

theorem checkKind_eq_ok_iff : checkKind n = .ok () ↔
    (n.transitions = [] ↔ n.kind = .stop) ∧ n.kind ≠ .join (some 0) := by
  unfold checkKind
  cases n.kind with
  | join expected => simp [bind_unit_eq_ok_iff, refuseIf_eq_ok_iff]
  | _ => simp [refuseIf_eq_ok_iff]

theorem checkTransition_eq_ok_iff {t : Transition} : d.checkTransition n t = .ok () ↔
    (∃ m ∈ d.nodes, m.id = t.target) ∧
      ∀ c, t.condition = some c → c.groups ≠ [] ∧ [] ∉ c.groups := by
  rw [checkTransition, bind_unit_eq_ok_iff, refuseIf_eq_ok_iff, Bool.not_eq_false', hasNode_iff]
  refine and_congr_right' ?_
  cases t.condition with
  | none =>
    refine iff_of_true rfl ?_
    rintro _ ⟨⟩
  | some c =>
    have hempty : c.groups.any List.isEmpty = false ↔ [] ∉ c.groups := by
      simp only [List.any_eq_false, List.isEmpty_iff]
      exact ⟨fun h hmem => h [] hmem rfl, fun h g hg hnil => h (hnil ▸ hg)⟩
    simp only [refuseIf_eq_ok_iff, Bool.or_eq_false_iff, hempty, Condition.isEmpty,
      List.isEmpty_eq_false_iff, Option.some.injEq, forall_eq']

theorem checkTransitions_eq_ok_iff {ts : List Transition} :
    d.checkTransitions n ts = .ok () ↔ ∀ t ∈ ts, d.checkTransition n t = .ok () := by
  induction ts with
  | nil => simp [checkTransitions]
  | cons t ts ih => rw [checkTransitions, bind_unit_eq_ok_iff, ih, List.forall_mem_cons]

theorem checkNodes_eq_ok_iff {ns : List Node} : d.checkNodes ns = .ok () ↔
    ∀ n ∈ ns, checkKind n = .ok () ∧ d.checkTransitions n n.transitions = .ok () := by
  induction ns with
  | nil => simp [checkNodes]
  | cons n ns ih =>
    rw [checkNodes, bind_unit_eq_ok_iff, bind_unit_eq_ok_iff, ih, List.forall_mem_cons, and_assoc]

theorem forall_transitions {P : Transition → Prop} :
    (∀ t ∈ d.transitions, P t) ↔ ∀ n ∈ d.nodes, ∀ t ∈ n.transitions, P t := by
  simp only [transitions, List.mem_flatMap]
  grind

/-! ### All of them -/

theorem validate_eq_ok_iff : d.validate = .ok () ↔ Text.isBlankText d.id = false ∧ d.nodes ≠ [] ∧
    (d.nodes.map (·.id)).Nodup ∧ ∃ start, d.nodes.filter (·.kind.isStart) = [start] ∧
      d.checkStart start = .ok () ∧ (∃ stop ∈ d.nodes, stop.kind = .stop) ∧
      d.checkNodes d.nodes = .ok () ∧ d.timeoutSeconds ≠ some 0 ∧ d.reachesStop start.id = true := by
  simp only [validate, bind_unit_eq_ok_iff]
  -- of all the checks only the one for the start node has a result that later ones need
  rw [bind_eq_ok_iff]
  simp only [bind_unit_eq_ok_iff, refuseIf_eq_ok_iff, checkUnique_eq_ok_iff, soleStart_eq_ok_iff,
    Bool.not_eq_false', any_isStop_iff, beq_eq_false_iff_ne, List.isEmpty_eq_false_iff, ne_eq]

/-- The checks pass for the definitions that are well-formed, and for no others. -/
theorem validate_exact (d : Definition) : d.validate = .ok () ↔ d.WellFormed := by
  rw [validate_eq_ok_iff, isBlankText_eq_false_iff]
  constructor
  · rintro ⟨hnamed, hinhabited, hunique, start, hsole, hstart, hstop, hnodes, htimeout, harrives⟩
    -- the search starts from a node of the definition, without which it finds nothing
    have hmem : start ∈ d.nodes := List.mem_of_mem_filter (hsole ▸ List.mem_singleton_self start)
    obtain ⟨hleaves, huntargeted⟩ := checkStart_eq_ok_iff.1 hstart
    rw [reachesStop_iff (hasNode_iff.2 ⟨start, hmem, rfl⟩)] at harrives
    rw [checkNodes_eq_ok_iff] at hnodes
    have hkinds : ∀ n ∈ d.nodes, _ := fun n hn => checkKind_eq_ok_iff.1 (hnodes n hn).1
    have htransitions : ∀ t ∈ d.transitions, _ := forall_transitions.2 fun n hn t ht =>
      checkTransition_eq_ok_iff.1 (checkTransitions_eq_ok_iff.1 (hnodes n hn).2 t ht)
    exact ⟨hnamed, hinhabited, hunique, ⟨start, hsole, hleaves, huntargeted, harrives⟩, hstop,
      fun n hn => (hkinds n hn).1, fun t ht => (htransitions t ht).1,
      fun t ht => (htransitions t ht).2, fun n hn => (hkinds n hn).2, htimeout⟩
  · rintro ⟨hnamed, hinhabited, hunique, ⟨start, hstart⟩, hstop, hends, htargets, hguards, hjoins,
      htimeout⟩
    have hmem : start ∈ d.nodes :=
      List.mem_of_mem_filter (hstart.sole ▸ List.mem_singleton_self start)
    refine ⟨hnamed, hinhabited, hunique, start, hstart.sole,
      checkStart_eq_ok_iff.2 ⟨hstart.leaves, hstart.untargeted⟩, hstop, ?_, htimeout,
      (reachesStop_iff (hasNode_iff.2 ⟨start, hmem, rfl⟩)).2 hstart.arrives⟩
    refine checkNodes_eq_ok_iff.2 fun n hn => ⟨checkKind_eq_ok_iff.2 ⟨hends n hn, hjoins n hn⟩, ?_⟩
    refine checkTransitions_eq_ok_iff.2 fun t ht => checkTransition_eq_ok_iff.2 ?_
    exact ⟨forall_transitions.1 htargets n hn t ht, forall_transitions.1 hguards n hn t ht⟩

end Workflow.Definition
