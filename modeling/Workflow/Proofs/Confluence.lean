import Workflow.Proofs.Confinement
import Workflow.Proofs.Unguarded

/-!
Walks through a definition without guards and flow handlers. Nothing gets stuck on them (`Move.fits`),
and every move of a walk is one of its net (`Move.net`), where the order of the queue has no part. So
where a walk comes to rest depends on the tokens it began with only (`advance_net`).
-/
namespace Workflow

open Relation Function
open Engine Engine.Attempt

theorem NameSet.contains_insert (s : NameSet) (n m : String) :
    (s.insert n).contains m = (decide (m = n) || s.contains m) := Dict.contains_insert s.index n m ()

theorem NameSet.contains_erase (s : NameSet) (n m : String) :
    (s.erase n).contains m = (!decide (m = n) && s.contains m) := Dict.contains_erase s.index n m

/-- What waits at the nodes of an instance. -/
def Instance.spots (i : Instance) (n : String) : Spot :=
  ⟨i.currentNodes.contains n, i.joinArrivals.get? n⟩

theorem Instance.spots_inj {i j : Instance} :
    i.spots = j.spots ↔ i.currentNodes = j.currentNodes ∧ i.joinArrivals = j.joinArrivals := by
  constructor
  · intro h
    have hspot := fun n => Spot.mk.inj (congrFun h n)
    exact ⟨NameSet.ext fun n => by rw [NameSet.mem_def, (hspot n).1, NameSet.mem_def],
      Dict.ext_get? fun n => (hspot n).2⟩
  · rintro ⟨hnodes, harrivals⟩
    funext n
    rw [spots, spots, hnodes, harrivals]

/-- The handlers of a definition's tasks create as many tasks at a node each time. -/
def Registry.Steady (r : Registry) (d : Definition) (count : String → ℕ) : Prop :=
  ∀ {x : Execution} {assignees name reminder h earlier supply ts supply'},
    x.definition.anytime = d.anytime → x.definition.node? x.node.id = some x.node →
      x.node.kind = .task assignees name reminder → r.taskHandler name = .ok h →
        h earlier x supply = (.ok ts, supply') → ts.length = count x.node.id

theorem Registry.Steady.of_anytime {r : Registry} {d d' : Definition} {count : String → ℕ}
    (hr : r.Steady d count) (h : d'.anytime = d.anytime) : r.Steady d' count :=
  fun hsame => hr (hsame.trans h)

/-- How many tasks the standard handlers create at a node. -/
def Definition.standardCount (d : Definition) (n : String) : ℕ :=
  match (d.node? n).map Node.kind with
  | some (.task assignees handler _) =>
    if handler.getD Registry.defaultName = Registry.perAssigneeName then assignees.length else 1
  | _ => 0

theorem TaskHandler.length_tasksFor (x : Execution) (groups : List (List String)) (supply : Supply) :
    (tasksFor x groups supply).1.length = groups.length := by
  induction groups generalizing supply with
  | nil => rfl
  | cons assignees groups ih => simp [tasksFor, ih]

theorem Registry.steady_of_standard {r : Registry} (hr : r.task = standard.task) (d : Definition) :
    r.Steady d d.standardCount := by
  intro x assignees name reminder h earlier supply ts supply' hsame hnode hkind hh hts
  have hassignees : x.node.assignees = assignees := by rw [Node.assignees, hkind]
  have hcount : d.standardCount x.node.id =
      if name.getD defaultName = perAssigneeName then assignees.length else 1 := by
    obtain ⟨m, hm, hkinds⟩ := Definition.exists_node?_of_anytime hsame hnode
    rw [hkind] at hkinds
    rw [Definition.standardCount, hm, Option.map_some]
    cases hk : m.kind with
    | task assignees' name' reminder' =>
      rw [hk] at hkinds
      obtain ⟨rfl, rfl, -⟩ := NodeKind.task.inj hkinds
      rfl
    | _ => rw [hk] at hkinds; cases hkinds
  obtain rfl := taskHandler_of_standard hr hh
  rw [hcount]
  by_cases hper : name.getD defaultName = perAssigneeName
  · rw [if_pos hper] at hts ⊢
    unfold TaskHandler.perAssignee at hts
    split at hts
    · cases hts
    · cases hts
      rw [TaskHandler.length_tasksFor, List.length_map, hassignees]
  · rw [if_neg hper] at hts ⊢
    cases hts
    rfl

/-- Whether all that waits in an instance waits where its definition has it wait: tokens are counted at
joins, tasks are at task nodes that the instance lists, and no token is stuck. -/
structure Instance.Fits (d : Definition) (busy : String → Prop) (i : Instance) : Prop where
  joins : ∀ n, i.joinArrivals.contains n = true → d.IsJoin n
  tasks : ∀ n, busy n → d.IsTask n ∧ n ∈ i.currentNodes
  going : i.failure = none

namespace Engine

/-- What waits in the instance of a step, and the nodes of these and the new tasks. -/
def Step.net (born : Multiset String) (s : Step) : Net :=
  ⟨s.record.spots, born + (s.created.map Task.node : List String), 0⟩

def Walk.net (born : Multiset String) (x : Walk) : Net :=
  { x.step.net born with tokens := (x.queue : List Token) }

/-- A walk whose instance fits the definition, with tokens that can go on. -/
structure Walk.Fits (d : Definition) (base : String → Prop) (x : Walk) : Prop where
  record : x.step.record.Fits d (x.step.Busy base)
  queue : ∀ n, .leave n ∈ x.queue → d.ways n ≠ []

section Spots

variable (s : Step) (n : String)

theorem spots_wait : (s.wait n).record.spots =
    update s.record.spots n ⟨true, (s.record.spots n).arrivals⟩ := by
  funext m
  by_cases hm : m = n
  · subst hm
    simp [Instance.spots, Step.wait, NameSet.contains_insert]
  · simp [Instance.spots, Step.wait, NameSet.contains_insert, hm]

theorem spots_depart : (s.depart n).record.spots =
    update s.record.spots n ⟨false, (s.record.spots n).arrivals⟩ := by
  funext m
  by_cases hm : m = n
  · subst hm
    simp [Instance.spots, Step.depart, NameSet.contains_erase]
  · simp [Instance.spots, Step.depart, NameSet.contains_erase, hm]

theorem spots_release : (s.release n).record.spots = update s.record.spots n ⟨false, none⟩ := by
  funext m
  by_cases hm : m = n
  · subst hm
    simp [Instance.spots, Step.release, Step.depart, NameSet.contains_erase, Dict.get?_erase]
  · simp [Instance.spots, Step.release, Step.depart, NameSet.contains_erase, Dict.get?_erase, hm]

theorem spots_arrive : (s.arrive n).2.record.spots =
    update s.record.spots n ⟨(s.record.spots n).listed,
      some ((s.record.spots n).arrivals.getD 0 + 1)⟩ := by
  funext m
  by_cases hm : m = n
  · subst hm
    simp [Instance.spots, Step.arrive]
  · simp [Instance.spots, Step.arrive, Dict.get?_insert, hm]

end Spots

variable {e : Engine} {d : Definition} {count : String → ℕ} {n : Node} {s s' : Step}
  {supply supply' : Supply} {more : List Token} {base : String → Prop}

/-- What comes of a token that enters a node is what the node receives in the net. -/
theorem Entry.receives (hn : d.node? n.id = some n) (hr : e.registry.Steady d count)
    (h : Entry e d n supply s s' more supply') :
    s'.record.spots = update s.record.spots n.id
        (d.receive count n.id (s.record.spots n.id)).spot ∧
      s'.created.map Task.node = s.created.map Task.node ++
        List.replicate (d.receive count n.id (s.record.spots n.id)).tasks n.id ∧
      more = (d.receive count n.id (s.record.spots n.id)).queued := by
  unfold Definition.receive
  rw [hn]
  cases h with
  | passes hk => rcases hk with hk | hk <;> simp [hk]
  | ends hk => simp [hk]
  | idles hk hh hts =>
    have hcount : count n.id = 0 := (hr (x := execution d n s) rfl hn hk hh hts).symm
    simp [hk, hcount]
  | @parks _ _ _ _ _ ts _ hk hh hts hne hown =>
    have hlength : ts.length = count n.id := hr (x := execution d n s) rfl hn hk hh hts
    have hcount : count n.id ≠ 0 := fun hnone =>
      hne (List.eq_nil_of_length_eq_zero (hlength.trans hnone))
    have hnodes : ts.map Task.node = List.replicate (count n.id) n.id := by
      rw [← hlength, ← List.map_const']
      exact List.map_congr_left fun t ht => (hown t ht).2
    simp only [hk, if_neg hcount, List.map_append, hnodes, and_true]
    exact spots_wait s n.id
  | fires hk hfull =>
    have hcount : (s.arrive n.id).1 = (s.record.spots n.id).arrivals.getD 0 + 1 := rfl
    rw [hcount] at hfull
    simp only [hk, if_pos hfull, spots_release, spots_arrive, update_idem]
    exact ⟨trivial, (List.append_nil _).symm, trivial⟩
  | gathers hk hshort =>
    have hcount : (s.arrive n.id).1 = (s.record.spots n.id).arrivals.getD 0 + 1 := rfl
    rw [hcount] at hshort
    simp only [hk, if_neg hshort, spots_wait, spots_arrive, update_idem, update_self]
    exact ⟨trivial, (List.append_nil _).symm, trivial⟩

/-! ### Nothing gets stuck -/

/-- The node of an entry lets tokens go, if the entry queues one. -/
theorem Entry.ways_ne_nil (hd : d.GoesOn) (hn : d.node? n.id = some n)
    (h : Entry e d n supply s s' more supply') : ∀ m, .leave m ∈ more → d.ways m ≠ [] := by
  have hkind : n.kind.isStop = false → ∀ m, Token.leave m ∈ [Token.leave n.id] → d.ways m ≠ [] := by
    intro hkind m hm
    cases List.mem_singleton.1 hm
    exact hd n.id n hn hkind
  cases h with
  | passes hk => exact hkind (by rcases hk with hk | hk <;> rw [hk] <;> rfl)
  | ends hk => exact fun m hm => nomatch hm
  | idles hk hh hts => exact hkind (by rw [hk]; rfl)
  | parks hk hh hts hne hown => exact fun m hm => nomatch hm
  | fires hk hfull => exact hkind (by rw [hk]; rfl)
  | gathers hk hshort => exact fun m hm => nomatch hm

/-- An instance fits its definition still when tokens of a join are gone. -/
theorem fits_release {j : String} (hj : d.IsJoin j) (h : s.record.Fits d (s.Busy base)) :
    (s.release j).record.Fits d ((s.release j).Busy base) where
  joins m hm := by
    change (s.record.joinArrivals.erase j).contains m = true at hm
    rw [Dict.contains_erase, Bool.and_eq_true] at hm
    exact h.joins m hm.2
  tasks m hm := by
    obtain ⟨htask, hlisted⟩ := h.tasks m hm
    exact ⟨htask, NameSet.mem_erase.2 ⟨htask.ne_of_isJoin hj, hlisted⟩⟩
  going := h.going

theorem fits_arrive {j : String} (hj : d.IsJoin j) (h : s.record.Fits d (s.Busy base)) :
    (s.arrive j).2.record.Fits d ((s.arrive j).2.Busy base) where
  joins m hm := by
    change (s.record.joinArrivals.insert j _).contains m = true at hm
    rw [Dict.contains_insert, Bool.or_eq_true, decide_eq_true_eq] at hm
    rcases hm with rfl | hm
    · exact hj
    · exact h.joins m hm
  tasks m hm := h.tasks m hm
  going := h.going

theorem fits_wait {m : String} (h : s.record.Fits d (s.Busy base)) :
    (s.wait m).record.Fits d ((s.wait m).Busy base) where
  joins := h.joins
  tasks k hk := (h.tasks k hk).imp_right fun hlisted => NameSet.mem_insert.2 (Or.inr hlisted)
  going := h.going

theorem Entry.fits (hn : d.node? n.id = some n) (h : Entry e d n supply s s' more supply')
    (hs : s.record.Fits d (s.Busy base)) : s'.record.Fits d (s'.Busy base) := by
  cases h with
  | passes hk => exact hs
  | ends hk => exact hs
  | idles hk hh hts => exact hs
  | @parks _ _ _ _ _ ts _ hk hh hts hne hown =>
    have hwait := fits_wait (m := n.id) hs
    refine ⟨hwait.joins, fun m hm => ?_, hwait.going⟩
    rcases hm with hold | ⟨t, ht, hopen, hnode⟩
    · exact hwait.tasks m (Or.inl hold)
    · rcases List.mem_append.1 ht with hold | hnew
      · exact hwait.tasks m (Or.inr ⟨t, hold, hopen, hnode⟩)
      · obtain rfl : n.id = m := (hown t hnew).2.symm.trans hnode
        exact ⟨⟨n, _, _, _, hn, hk⟩, NameSet.mem_insert.2 (Or.inl rfl)⟩
  | fires hk hfull =>
    have hj : d.IsJoin n.id := ⟨n, _, hn, hk⟩
    exact fits_release hj (fits_arrive hj hs)
  | gathers hk hshort => exact fits_wait (fits_arrive ⟨n, _, hn, hk⟩ hs)

/-- The targets of a token that leaves a node without guards. -/
theorem targets_eq_of_unguarded {id : String} {targets : List String} (hd : d.Unguarded)
    (hn : d.node? id = some n)
    (h : (route e.evaluator n s.record.vars).1 = .ok targets) : targets = d.ways id := by
  rw [route_of_unguarded (hd n (node?_spec hn).1)] at h
  rw [Definition.ways_eq hn]
  exact (Except.ok.inj h).symm

theorem leave_of_ne_nil {targets : List String} (h : targets ≠ []) : leave n targets s = s := by
  unfold leave
  rw [if_neg]
  simpa using h

variable {x y : Walk}

theorem isJoin_of_starvedJoin? {i : Instance} {j : String} {busy : String → Prop}
    (h : starvedJoin? d i = some j) (hi : i.Fits d busy) : d.IsJoin j :=
  hi.joins j (mem_starvedJoins (mem_starvedJoins_of_starvedJoin? h))

/-- No token gets stuck in a definition without guards. -/
theorem Move.fits (hd : d.Unguarded) (hgoes : d.GoesOn) (h : Move e d supply x supply' y)
    (hx : x.Fits d base) : y.Fits d base := by
  cases h with
  | @enters id entered queue s n vars s' more _ _ hn h =>
    obtain ⟨-, rfl⟩ := node?_spec hn
    refine ⟨h.fits hn ⟨hx.record.joins, hx.record.tasks, hx.record.going⟩, fun m hm => ?_⟩
    rcases List.mem_append.1 hm with hold | hnew
    · exact hx.queue m (List.mem_cons_of_mem _ hold)
    · exact h.ways_ne_nil hgoes hn m hnew
  | @leaves id entered queue s n targets _ hn htargets =>
    obtain rfl := targets_eq_of_unguarded hd hn htargets
    rw [leave_of_ne_nil (hx.queue id List.mem_cons_self)]
    refine ⟨hx.record, fun m hm => ?_⟩
    rcases List.mem_append.1 hm with hold | hnew
    · exact hx.queue m (List.mem_cons_of_mem _ hold)
    · obtain ⟨target, -, htoken⟩ := List.mem_map.1 hnew
      cases htoken
  | @releases join entered s _ h =>
    have hj := isJoin_of_starvedJoin? h hx.record
    refine ⟨fits_release hj hx.record, fun m hm => ?_⟩
    cases List.mem_singleton.1 hm
    obtain ⟨n, declared, hn, hkind⟩ := hj
    exact hgoes join n hn (by rw [hkind]; rfl)

/-! ### Moves of the net -/

/-- The starved join that is released is one to which nothing else leads. -/
theorem free_of_starvedJoin? {i : Instance} {j : String} {busy : String → Prop}
    {born : Multiset String} (hd : d.JoinsOrdered) (hi : i.Fits d busy)
    (h : starvedJoin? d i = some j) : Net.Free d j ⟨i.spots, born, 0⟩ := by
  obtain ⟨hlisted, harrived, -⟩ := mem_starvedJoins_iff.1 (mem_starvedJoins_of_starvedJoin? h)
  have hjoin : ∀ a, i.StarvesAt d a → d.IsJoin a := fun a ha => hi.joins a ha.1.2
  have hapart : ∀ a b, i.StarvesAt d a → i.StarvesAt d b → a ≠ b → d.Reaches a b →
      ¬ d.Reaches b a := fun a b ha hb hne hto hback =>
    hne (hd a b (hjoin a ha) (hjoin b hb) hto.1 hback.1)
  refine ⟨hlisted, harrived, fun n hne hn hpath => ?_, fun t ht => absurd ht List.not_mem_nil⟩
  obtain ⟨m, declared, hm, -⟩ := hi.joins j harrived
  have hdownstream := (reflTransGen_iff_eq_or_transGen.1 hpath).resolve_left (Ne.symm hne)
  exact apart_of_starvedJoin? h hapart hn hne ⟨hdownstream, Definition.hasNode_iff.2 ⟨m, node?_spec hm⟩⟩

/-- Where no join starves and no token moves, none will. -/
theorem still_of_starvedJoin?_eq_none {i : Instance} {born : Multiset String}
    (h : starvedJoin? d i = none) :
    Net.Still d ⟨i.spots, born, 0⟩ := by
  refine ⟨rfl, fun j hfree => starvedJoin?_eq_none_iff.1 h j (mem_starvedJoins_iff.2
    ⟨hfree.listed, hfree.arrived, fun m hm hlive hmem => ?_⟩)⟩
  refine hfree.apart m (fun hmj => ?_) hm (Definition.mem_reachableFrom.1 hmem).2.2
  have harrived : i.joinArrivals.contains j = true := hfree.arrived
  rw [← hmj, hlive] at harrived
  cases harrived

theorem Move.net (hd : d.Unguarded) (hj : d.JoinsOrdered) (hr : e.registry.Steady d count)
    (h : Move e d supply x supply' y) (hx : x.Fits d base) (born : Multiset String) :
    Net.Step d count (x.net born) (y.net born) := by
  cases h with
  | @enters id entered queue s n vars s' more _ _ hn h =>
    obtain ⟨-, rfl⟩ := node?_spec hn
    obtain ⟨hspots, hcreated, hmore⟩ := h.receives hn hr
    let rest : Net := { s.net born with tokens := (queue : List Token) }
    have hy : Walk.net born ⟨entered + 1, queue ++ more, s'⟩ = rest.take d count (.enter n.id) := by
      refine Net.ext hspots ?_ ?_
      · change born + (s'.created.map Task.node : List String) = _
        rw [hcreated, ← Multiset.coe_add, Multiset.coe_replicate, ← add_assoc]
        rfl
      · change ((queue ++ more : List Token) : Multiset Token) = _
        rw [← Multiset.coe_add, add_comm, hmore]
        rfl
    rw [hy]
    exact .takes (.enter n.id) rest
  | @leaves id entered queue s n targets _ hn htargets =>
    obtain rfl := targets_eq_of_unguarded hd hn htargets
    rw [leave_of_ne_nil (hx.queue id List.mem_cons_self)]
    let rest : Net := { s.net born with tokens := (queue : List Token) }
    have hy : Walk.net born ⟨entered, queue ++ (d.ways id).map .enter, s⟩ =
        rest.take d count (.leave id) := by
      refine Net.ext rfl rfl ?_
      change ((queue ++ (d.ways id).map .enter : List Token) : Multiset Token) = _
      rw [← Multiset.coe_add, add_comm]
      rfl
    rw [hy]
    exact .takes (.leave id) rest
  | @releases join entered s _ h =>
    have hfree : Net.Free d join (s.net born) := free_of_starvedJoin? hj hx.record h
    have hy : Walk.net born ⟨entered, [.leave join], s.release join⟩ =
        (Walk.net born ⟨entered, [], s⟩).letGo join := Net.ext (spots_release s join) rfl rfl
    rw [hy]
    exact .releases hfree

/-- A walk that is over has come to the rest that its net comes to. -/
theorem advance_net (hd : d.Unguarded) (hgoes : d.GoesOn) (hj : d.JoinsOrdered)
    (hr : e.registry.Steady d count) (hx : x.Fits d base) {a a' : Ambient}
    (h : advance e d x a = (.ok s', a')) (born : Multiset String) :
    s'.record.Fits d (s'.Busy base) ∧
      ReflTransGen (Net.Step d count) (x.net born) (s'.net born) ∧ (s'.net born).Still d := by
  obtain ⟨y, ⟨hsteps, hy⟩, hqueue, hstarved, rfl⟩ := advance_keeps
    (P := fun _ y => ReflTransGen (Net.Step d count) (x.net born) (y.net born) ∧ y.Fits d base)
    (fun hmove hP => ⟨hP.1.tail (hmove.net hd hj hr hP.2 born), hmove.fits hd hgoes hP.2⟩)
    ⟨.refl, hx⟩ h
  have hrest : y.net born = y.step.net born := by
    unfold Walk.net
    rw [hqueue]
    rfl
  rw [hrest] at hsteps
  exact ⟨hy.record, hsteps, still_of_starvedJoin?_eq_none hstarved⟩

/-! ### Variables -/

theorem Entry.vars_eq (h : Entry e d n supply s s' more supply') :
    s'.record.vars = s.record.vars := by
  cases h <;> rfl

theorem enter_vars {a a' : Ambient} (hn : n.handler = none)
    (h : enter e d n s a = (.ok (s', more), a')) : s'.record.vars = s.record.vars := by
  have hflow : ∀ a, runFlowHandler e d n s a = (.ok s, a) := by
    intro a
    unfold runFlowHandler
    rw [hn]
    rfl
  unfold enter at h
  rw [bind_ok (remark_eq _), bind_ok (hflow _)] at h
  cases hk : n.kind with
  | start =>
    rw [hk] at h
    cases h
    rfl
  | condition =>
    rw [hk] at h
    cases h
    rfl
  | task assignees handler reminder =>
    rw [hk] at h
    exact (enterTask_cases hk h).vars_eq
  | join declared =>
    rw [hk] at h
    exact (enterJoin_cases (e := e) hk h).vars_eq
  | stop =>
    rw [hk] at h
    cases h
    rfl

theorem move_vars {a a' : Ambient} (hd : d.Unhandled) (h : move e d x a = (.ok (some y), a')) :
    y.step.record.vars = x.step.record.vars := by
  obtain ⟨entered, queue, s⟩ := x
  rcases queue with _ | ⟨id | id, queue⟩
  · simp only [move] at h
    cases hs : starvedJoin? d s.record with
    | none =>
      rw [hs] at h
      cases h
    | some join =>
      rw [hs] at h
      cases h
      rfl
  · simp only [move] at h
    split at h
    · obtain ⟨n, a₁, hnode, hrest⟩ := of_bind_ok h
      obtain ⟨⟨s', more⟩, a₂, henter, hrest⟩ := of_bind_ok hrest
      cases hrest
      exact enter_vars (hd n (node?_spec (node_ok hnode).1).1) henter
    · cases h
  · simp only [move] at h
    obtain ⟨n, a₁, -, hrest⟩ := of_bind_ok h
    obtain ⟨targets, a₂, -, hrest⟩ := of_bind_ok hrest
    have hleave : (leave n targets s).record.vars = s.record.vars := by
      unfold leave
      split <;> rfl
    split at hrest <;> cases hrest <;> exact hleave

/-- Without flow handlers, tokens leave the variables alone. -/
theorem advance_vars {a a' : Ambient} (hd : d.Unhandled) (h : advance e d x a = (.ok s', a')) :
    s'.record.vars = x.step.record.vars := by
  induction x, a using advance.induct e d with
  | case1 x a y a₁ hm ih =>
    rw [advance, hm] at h
    exact (ih h).trans (move_vars hd hm)
  | case2 x a a₁ hm =>
    rw [advance, hm] at h
    cases h
    rfl
  | case3 x a err a₁ hm =>
    rw [advance, hm] at h
    cases h

end Engine

end Workflow
