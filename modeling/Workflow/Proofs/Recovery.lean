import Workflow.Proofs.Pending

/-!
Tokens that find no way out, and whether a retry can reach them. The step that tells of such a token is
written and notes where it got stuck. The token waits there, to be retried, just if the node was not
taken off the list for another token afterwards (`recoverable_iff`).
-/
namespace Workflow

open Engine Engine.Action Session

namespace Engine

variable {e : Engine} {d : Definition} {s : Step} {supply supply' : Supply} {x y : Walk} {n : String}
  {a a' : Ambient}

/-! ### During a walk -/

/-- Whether these states of a walk take a node off the list and never put it back. -/
def LetsGo (d : Definition) (n : String) (states : List Walk) : Prop :=
  ∃ earlier x later, states = earlier ++ x :: later ∧ x.unparks? d = some n ∧
    ∀ y ∈ later, ¬ n ∈ y.step.record.currentNodes

theorem LetsGo.cons {states : List Walk} (h : LetsGo d n states) (x : Walk) :
    LetsGo d n (x :: states) := by
  obtain ⟨earlier, y, later, rfl, hy⟩ := h
  exact ⟨x :: earlier, y, later, rfl, hy⟩

theorem Entry.unparks {node : Node} {s' : Step} {more : List Token}
    (h : Entry e d node supply s s' more supply') (hn : n ∈ s.record.currentNodes)
    (hout : ¬ n ∈ s'.record.currentNodes) : fills? d s node = some n := by
  cases h with
  | passes hk => exact absurd hn hout
  | ends hk => exact absurd hn hout
  | idles hk hh hts => exact absurd hn hout
  | parks hk hh hts hne hown => exact absurd (NameSet.mem_insert.2 (Or.inr hn)) hout
  | fires hk hfull =>
    rw [fills?_of_join hk, if_pos hfull]
    by_contra hne
    exact hout (NameSet.mem_erase.2 ⟨fun h => hne (congrArg some h.symm), hn⟩)
  | gathers hk hshort => exact absurd (NameSet.mem_insert.2 (Or.inr hn)) hout

/-- A move takes the one node off the list that the walk before it tells. -/
theorem Move.unparks (h : Move e d supply x supply' y) (hn : n ∈ x.step.record.currentNodes)
    (hout : ¬ n ∈ y.step.record.currentNodes) : x.unparks? d = some n := by
  cases h with
  | @enters id entered queue s node vars s' more _ _ hnode hentry =>
    have hfills : fills? d (s.setVars vars) node = some n := hentry.unparks hn hout
    exact (congrArg (Option.bind · (fills? d s)) hnode).trans hfills
  | @leaves id entered queue s node targets _ hnode htargets =>
    refine absurd ?_ hout
    change n ∈ (leave node targets s).record.currentNodes
    unfold leave
    split
    · exact NameSet.mem_insert.2 (Or.inr hn)
    · exact hn
  | @releases join entered s _ hstarved =>
    rw [Walk.unparks?, hstarved]
    by_contra hne
    exact hout (NameSet.mem_erase.2 ⟨fun h => hne (congrArg some h.symm), hn⟩)

theorem mem_trail_of_advance (h : advance e d x a = (.ok s, a')) :
    ∃ states y, trail e d x a = states ++ [y] ∧ y.step = s ∧ y.unparks? d = none := by
  induction x, a using advance.induct e d with
  | case1 x a y a₁ hm ih =>
    rw [advance, hm] at h
    obtain ⟨states, z, htrail, hz⟩ := ih h
    exact ⟨x :: states, z, by rw [trail_cons hm, htrail]; rfl, hz⟩
  | case2 x a a₁ hm =>
    rw [advance, hm] at h
    cases h
    obtain ⟨hqueue, hstarved, -⟩ := move_none hm
    exact ⟨[], x, trail_last hm, rfl, by rw [Walk.unparks?, hqueue, hstarved]⟩
  | case3 x a err a₁ hm =>
    rw [advance, hm] at h
    cases h

/-- A node that some state of a walk lists is listed at its end, or it was let go. -/
theorem letsGo_of_not_mem (h : advance e d x a = (.ok s, a'))
    (hn : ∃ y ∈ trail e d x a, n ∈ y.step.record.currentNodes)
    (hout : ¬ n ∈ s.record.currentNodes) : LetsGo d n (trail e d x a) := by
  induction x, a using advance.induct e d with
  | case1 x a y a₁ hm ih =>
    rw [advance, hm] at h
    rw [trail_cons hm] at hn ⊢
    by_cases hlater : ∃ z ∈ trail e d y a₁, n ∈ z.step.record.currentNodes
    · exact (ih h hlater).cons x
    · -- the first of the states is the last one that lists the node
      push Not at hlater
      obtain ⟨z, hz, hlisted⟩ := hn
      have hx : n ∈ x.step.record.currentNodes := by
        rcases List.mem_cons.1 hz with rfl | hz
        · exact hlisted
        · exact absurd hlisted (hlater z hz)
      have hy : ¬ n ∈ y.step.record.currentNodes := hlater y (mem_trail_self y a₁)
      exact ⟨[], x, _, rfl, (move_cases hm).unparks hx hy, hlater⟩
  | case2 x a a₁ hm =>
    rw [advance, hm] at h
    cases h
    rw [trail_last hm] at hn
    obtain ⟨z, hz, hlisted⟩ := hn
    rw [List.mem_singleton.1 hz] at hlisted
    exact absurd hlisted hout
  | case3 x a err a₁ hm =>
    rw [advance, hm] at h
    cases h

theorem mem_currentNodes_iff (h : advance e d x a = (.ok s, a'))
    (hn : ∃ y ∈ trail e d x a, n ∈ y.step.record.currentNodes) :
    n ∈ s.record.currentNodes ↔ ¬ LetsGo d n (trail e d x a) := by
  constructor
  · rintro hin ⟨earlier, y, later, htrail, hunparks, hlater⟩
    obtain ⟨states, z, hlast, rfl, hnone⟩ := mem_trail_of_advance h
    rw [htrail] at hlast
    cases later using List.reverseRecOn with
    | nil =>
      have hyz : y = z := (List.append_inj' hlast rfl).2 |> List.singleton_inj.1
      rw [hyz, hnone] at hunparks
      cases hunparks
    | append_singleton later w _ =>
      rw [← List.cons_append, ← List.append_assoc] at hlast
      have hwz : w = z := (List.append_inj' hlast rfl).2 |> List.singleton_inj.1
      exact hlater w (List.mem_append_right _ (List.mem_singleton_self w)) (hwz ▸ hin)
  · intro hstays
    by_contra hout
    exact hstays (letsGo_of_not_mem h hn hout)

/-- Every node that a token could not leave is noted. -/
def Noted (s : Step) : Prop := ∀ m ∈ s.failures, s.record.StuckAt m

theorem Entry.failures_eq {node : Node} {s' : Step} {more : List Token}
    (h : Entry e d node supply s s' more supply') :
    s'.failures = s.failures ∧ s'.record.failure = s.record.failure := by
  cases h <;> exact ⟨rfl, rfl⟩

theorem Move.noted (h : Move e d supply x supply' y) (hx : Noted x.step) : Noted y.step := by
  cases h with
  | enters hnode hentry =>
    obtain ⟨hfailures, hfailure⟩ := hentry.failures_eq
    intro m hm
    rw [Instance.StuckAt, hfailure]
    exact hx m (hfailures ▸ hm)
  | @leaves id entered queue s node targets _ hnode htargets =>
    change Noted (leave node targets s)
    unfold leave
    split
    · intro m hm
      rcases List.mem_append.1 hm with hm | hm
      · exact stuckAt_flag.2 (Or.inr (hx m hm))
      · exact stuckAt_flag.2 (Or.inl (List.mem_singleton.1 hm))
    · exact hx
  | releases hstarved => exact hx

/-- A node that a token could not leave just now is listed. -/
theorem Move.listed (h : Move e d supply x supply' y) (hold : ¬ n ∈ x.step.failures)
    (hnew : n ∈ y.step.failures) : n ∈ y.step.record.currentNodes := by
  cases h with
  | enters hnode hentry => exact absurd (hentry.failures_eq.1 ▸ hnew) hold
  | @leaves id entered queue s node targets _ hnode htargets =>
    change n ∈ (leave node targets s).failures at hnew
    change n ∈ (leave node targets s).record.currentNodes
    unfold leave at hnew ⊢
    split at hnew
    · rename_i hnone
      rw [if_pos hnone]
      rcases List.mem_append.1 hnew with hm | hm
      · exact absurd hm hold
      · exact NameSet.mem_insert.2 (Or.inl (List.mem_singleton.1 hm))
    · exact absurd hnew hold
  | releases hstarved => exact absurd hnew hold

theorem listed_of_failures (h : advance e d x a = (.ok s, a')) (hold : ¬ n ∈ x.step.failures)
    (hnew : n ∈ s.failures) : ∃ y ∈ trail e d x a, n ∈ y.step.record.currentNodes := by
  induction x, a using advance.induct e d with
  | case1 x a y a₁ hm ih =>
    rw [advance, hm] at h
    rw [trail_cons hm]
    by_cases hy : n ∈ y.step.failures
    · exact ⟨y, List.mem_cons_of_mem _ (mem_trail_self y a₁), (move_cases hm).listed hold hy⟩
    · obtain ⟨z, hz, hlisted⟩ := ih h hy
      exact ⟨z, List.mem_cons_of_mem _ hz, hlisted⟩
  | case2 x a a₁ hm =>
    rw [advance, hm] at h
    cases h
    exact absurd hnew hold
  | case3 x a err a₁ hm =>
    rw [advance, hm] at h
    cases h

end Engine

/-! ### After a step -/

/-- Whether a step takes a node off the list and never puts it back while its tokens move. -/
def Written.LetsGo (e : Engine) (w : Written) (n : String) : Prop :=
  ∃ d queue s, w.opening = .walks d queue s ∧ Engine.LetsGo d n (trail e d ⟨0, queue, s⟩ w.before)

namespace Session

variable {e : Engine} {x : Session} {r : Request} {opening : Action Opening} {id : Uuid} {n : String}

theorem Opens.failures_eq {store : Store} {supply supply' : Supply} {o : Opening}
    (h : Opens e store supply o supply') : o.step.failures = [] := by
  cases h with
  | starts hstart hdrawn => rfl
  | stays ht hopen hi hactive hothers => rfl
  | leaves ht hopen hi hactive hlast => rfl
  | retries hi hactive hf =>
    rw [Opening.step, pickUp_eq]
    rfl

theorem Opens.isActive {store : Store} {supply supply' : Supply} {o : Opening}
    (h : Opens e store supply o supply') : o.step.record.isActive = true := by
  cases h with
  | starts hstart hdrawn => rfl
  | stays ht hopen hi hactive hothers => exact hactive
  | leaves ht hopen hi hactive hlast => exact hactive
  | retries hi hactive hf =>
    rw [Opening.step, pickUp_eq]
    exact hactive

/-- An active instance in which a token waits that got stuck at a node, so that a retry applies. -/
structure Recoverable (e : Engine) (x : Session) (id : Uuid) (n : String) : Prop where
  waits : ∃ i, x.store.instance? id = some i ∧ i.isActive = true ∧ i.StuckAt n ∧ n ∈ i.currentNodes
  applies : x.Applies e (.retry id)

/-- The instance of a step as it is stored. It is active as long as it lists a node. -/
theorem Stepped.stored (st : Stepped e x r opening (x.serve e r))
    (hr : r.opening? e = some opening) :
    ∃ i, (x.serve e r).store.instance? st.step.record.id = some i ∧
      i.failure = st.step.record.failure ∧ i.currentNodes = st.step.record.currentNodes ∧
      (n ∈ i.currentNodes → i.isActive = true) := by
  have hid : st.step.record.id = st.step.settled.commit.record.id := st.step.id_settled.symm
  have hactive : st.step.record.isActive = true :=
    (follow_moved st.follow).isActive_eq.trans (st.opens_store hr).isActive
  refine ⟨_, by rw [st.committed.record, if_pos hid], ?_⟩
  change st.step.settled.record.failure = _ ∧ st.step.settled.record.currentNodes = _ ∧
    (n ∈ st.step.settled.record.currentNodes → st.step.settled.record.isActive = true)
  unfold Step.settled
  split
  · rename_i hdone
    rw [Bool.and_eq_true] at hdone
    exact ⟨rfl, rfl, fun hlisted => absurd hlisted (NameSet.isEmpty_iff.1 hdone.2 n)⟩
  · exact ⟨rfl, rfl, fun _ => hactive⟩

/-- The instance of a step in which a token got stuck notes the node, and is active and lists the node
just if the step did not let it go. -/
theorem Stepped.stuck (st : Stepped e x r opening (x.serve e r)) (hr : r.opening? e = some opening)
    (hn : n ∈ st.step.failures) :
    ∃ i, (x.serve e r).store.instance? st.step.record.id = some i ∧ i.StuckAt n ∧
      (i.isActive = true ∧ n ∈ i.currentNodes ↔
        ¬ Written.LetsGo e ⟨x.store, st.opens, st.before, st.step⟩ n) := by
  obtain ⟨i, hi, hfailure, hnodes, hgoing⟩ := st.stored (n := n) hr
  refine ⟨i, hi, ?_⟩
  rw [and_iff_right_of_imp hgoing, hnodes, Instance.StuckAt, hfailure]
  have hfollow := st.follow
  have hold := (st.opens_store hr).failures_eq
  cases hopening : st.opens with
  | stays s =>
    rw [hopening] at hfollow hold
    have hstep : s = st.step := Except.ok.inj (Prod.mk.inj hfollow).1
    -- no token moves, so that none gets stuck
    rw [← hstep, show s.failures = [] from hold] at hn
    cases hn
  | walks d queue s =>
    rw [hopening] at hfollow hold
    have hnone : s.failures = [] := hold
    have hnoted : Noted s := by
      intro m hm
      rw [hnone] at hm
      cases hm
    obtain ⟨y, hy, -, -, hend⟩ := advance_keeps (P := fun _ x => Noted x.step)
      (fun hm hx => hm.noted hx) hnoted hfollow
    have hlisted := mem_currentNodes_iff hfollow
      (listed_of_failures hfollow (by rw [hnone]; exact List.not_mem_nil) hn)
    refine ⟨(hend ▸ hy) n hn, hlisted.trans (not_congr ?_)⟩
    constructor
    · exact fun hgoes => ⟨d, queue, s, rfl, hgoes⟩
    · rintro ⟨d', queue', s', hsame, hgoes⟩
      cases hsame
      exact hgoes

/-- Whenever a token is told of that found no way out, the step was written, and its instance notes the
node. A retry reaches the token, which waits at the node of an active instance, just if the step did
not take the node off the list afterwards and leave it so. -/
theorem recoverable_iff (hr : r.opening? e = some opening)
    (hresult : x.result e r = .error (.routing id n)) :
    ∃ w, x.written? e r = some w ∧ w.owner = id ∧
      (∃ i, (x.serve e r).store.instance? id = some i ∧ i.StuckAt n) ∧
      ((x.serve e r).Recoverable e id n ↔ ¬ w.LetsGo e n) := by
  rcases serve_result (x := x) hr with ⟨⟨err, herr, hunwritten⟩, -⟩ | ⟨st, hreport⟩
  · rw [hresult] at herr
    exact absurd (Except.error.inj herr).symm (hunwritten.not_routing hr id n)
  · rw [hresult] at hreport
    rcases st.step.report_eq with hok | ⟨m, hm, hstuck⟩
    · rw [hok] at hreport
      cases hreport
    · rw [hstuck] at hreport
      cases hreport
      obtain ⟨i, hi, hat, hiff⟩ := st.stuck hr hm
      refine ⟨_, st.written?_eq hr, rfl, ⟨i, hi, hat⟩, ?_⟩
      rw [← hiff]
      constructor
      · rintro ⟨⟨j, hj, hactive, -, hlisted⟩, -⟩
        rw [← Option.some.inj (hj.symm.trans hi)]
        exact ⟨hactive, hlisted⟩
      · rintro ⟨hactive, hlisted⟩
        obtain ⟨f, hf, -⟩ := id hat
        exact ⟨⟨i, hi, hactive, hat, hlisted⟩, applies_retry hi hactive hf⟩

section Approval

/-- A gate that two tokens pass, the second of which gets it opened on its way. -/
def approved : Definition :=
  { id := "approved", version := 1, name := none, description := none, reminder := none
    timeoutSeconds := none
    nodes := [
      ⟨"start", none, .start, none, [.plain "split"]⟩,
      ⟨"split", none, .join (some 1), none, [.plain "gate", .plain "ask"]⟩,
      ⟨"gate", none, .join (some 1), none, [⟨"end", some (.single "ok")⟩]⟩,
      ⟨"ask", none, .condition, none, [.plain "grant"]⟩,
      ⟨"grant", none, .condition, some "approve", [.plain "gate"]⟩,
      ⟨"end", none, .stop, none, []⟩] }

/-- An engine with a flow handler that opens the gate. -/
def approvingEngine : Engine :=
  { plainEngine with
    registry := .withFlow .standard "approve" fun _ x => .ok (x.vars.insert "ok" (.bool true)) }

/-- The second token takes the gate off the list, where the first one got stuck. -/
theorem start_approved :
    (((history approvingEngine countedIds [.deploy approved]).serve approvingEngine
        (.start "approved" (verdict false))).store.instance? ⟨0⟩).map Instance.isActive =
      some false ∧
    (history approvingEngine countedIds [.deploy approved]).result approvingEngine
      (.start "approved" (verdict false)) = .error (.routing ⟨0⟩ "gate") := by
  have hengine : approvingEngine = ⟨gateEvaluator, approvingEngine.registry, ∅, .default⟩ := by
    rw [gateEvaluator_eq]
    rfl
  rw [hengine]
  generalize hstart : history ⟨gateEvaluator, approvingEngine.registry, ∅, .default⟩ countedIds
    [.deploy approved] = x
  constructor
  · rw [← hstart]
    cbv
  · rw [← hstart]
    cbv

theorem not_recoverable_of_ended
    (h : (x.store.instance? id).map Instance.isActive = some false) : ¬ x.Recoverable e id n := by
  intro hrecoverable
  obtain ⟨i, hi, hactive, -⟩ := hrecoverable.waits
  rw [hi, Option.map_some, hactive] at h
  cases h

/-- A token that got stuck may be told of although no retry reaches it. -/
theorem not_recoverable_approved :
    (history approvingEngine countedIds [.deploy approved]).result approvingEngine
        (.start "approved" (verdict false)) = .error (.routing ⟨0⟩ "gate") ∧
      ¬ ((history approvingEngine countedIds [.deploy approved]).serve approvingEngine
        (.start "approved" (verdict false))).Recoverable approvingEngine ⟨0⟩ "gate" :=
  ⟨start_approved.2, not_recoverable_of_ended start_approved.1⟩

/-- The step let go of the gate. -/
theorem letsGo_approved :
    (history approvingEngine countedIds [.deploy approved]).result approvingEngine
        (.start "approved" (verdict false)) = .error (.routing ⟨0⟩ "gate") ∧
      ∃ w, (history approvingEngine countedIds [.deploy approved]).written? approvingEngine
        (.start "approved" (verdict false)) = some w ∧ w.LetsGo approvingEngine "gate" := by
  refine ⟨start_approved.2, ?_⟩
  obtain ⟨w, hw, -, -, hiff⟩ := recoverable_iff (r := .start "approved" (verdict false)) rfl
    start_approved.2
  refine ⟨w, hw, ?_⟩
  by_contra hstays
  exact not_recoverable_of_ended start_approved.1 (hiff.2 hstays)

end Approval

end Session

end Workflow
