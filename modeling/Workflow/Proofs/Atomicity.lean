import Workflow.Proofs.Waiting

/-!
One write or none. An operation on an instance that fails leaves the store as it was, unless it fails
by telling of a token that found no way out. All others have written over the one instance, on the
revision that it had, along with tasks of it at most (`one_write_or_none`).
-/
namespace Workflow

open Engine Engine.Action

/-- What a store has after one instance was written over, along with tasks of it. -/
structure Store.Rewrites (x : Store) (id : Uuid) (y : Store) : Prop where
  definitions : y.definitions = x.definitions
  record : ∃ i, y.instance? id = some i ∧
    i.revision = ((x.instance? id).map Instance.revision).getD 0 + 1
  instances : ∀ id', id' ≠ id → y.instance? id' = x.instance? id'
  tasks : ∀ taskId, y.task? taskId ≠ x.task? taskId →
    (∀ t, x.task? taskId = some t → t.instanceId = id) ∧
      ∃ t, y.task? taskId = some t ∧ t.instanceId = id
  orders : ∀ id', id' ≠ id → y.order id' = x.order id'
  order : ∃ ids, y.order id = x.order id ++ ids

namespace Store

variable {x y : Store} {c : Commit} {i : Instance}

theorem Expects.revision (h : x.Expects i) :
    ((x.instance? i.id).map Instance.revision).getD 0 = i.revision := by
  cases hi : x.instance? i.id with
  | none => exact (h.absent hi).symm
  | some j => exact h.stored j hi

theorem Committed.rewrites (h : x.Committed c y) (ho : ∀ t ∈ c.updated,
    t.instanceId = c.record.id ∧ ∀ u, x.task? t.id = some u → u.instanceId = c.record.id) :
    x.Rewrites c.record.id y where
  definitions := h.definitions
  record := by
    have hrecord := h.record c.record.id
    rw [if_pos rfl] at hrecord
    exact ⟨_, hrecord, by rw [h.revision.revision]⟩
  instances id' hne := by rw [h.record, if_neg hne]
  tasks taskId hne := by
    rcases h.tasks taskId with ⟨t, ht, rfl, hsome⟩ | ⟨-, ⟨t, ht, rfl, hsome⟩ | ⟨-, hsame⟩⟩
    · exact ⟨(ho t ht).2, t, hsome, (ho t ht).1⟩
    · refine ⟨fun u hu => ?_, t, hsome, (h.fresh t ht).1⟩
      rw [(h.fresh t ht).2] at hu
      cases hu
    · exact absurd hsame hne
  orders id' hne := by rw [h.listing, if_neg hne]
  order := ⟨_, by rw [h.listing, if_pos rfl]⟩

theorem Expects.rewrites (h : x.Expects i) : x.Rewrites i.id (x.putInstance i) where
  definitions := rfl
  record := ⟨_, by rw [instance?_putInstance, if_pos rfl], by rw [h.revision]⟩
  instances id' hne := by rw [instance?_putInstance, if_neg hne]
  tasks taskId hne := absurd rfl hne
  orders id' hne := rfl
  order := ⟨[], (List.append_nil _).symm⟩

end Store

/-- Requests that are to change one instance. -/
def Request.isOperation : Request → Bool
  | deploy _ | tick _ _ => false
  | _ => true

/-- The worlds that requests lead to, each request served by an engine of its own that has its own
supply and its own past. -/
inductive World.Reached : World → Prop where
  | empty : Reached .empty
  | serve {w} (h : Reached w) (e : Engine) (a : Ambient) (r : Request) :
    Reached (Session.serve e ⟨w, a⟩ r).world

namespace Session

variable {e : Engine} {x : Session} {r : Request}

/-- The step of a request belongs to one instance and closes tasks of that one only. -/
theorem Stepped.closes_own {opening : Action Opening} {y : Session}
    (st : Stepped e x r opening y) (hr : r.opening? e = some opening) (hs : x.store.Sound)
    {t : Task} (ht : t ∈ st.step.settled.commit.updated) :
    t.instanceId = st.step.settled.commit.record.id ∧
      ∀ u, x.store.task? t.id = some u → u.instanceId = st.step.settled.commit.record.id :=
  ((st.opens_store hr).closes_own hs (follow_moved st.follow) ht).2

theorem sound_serve (hs : x.store.Sound) : (x.serve e r).store.Sound := by
  cases hr : r.opening? e with
  | none =>
    have hchanges := serve_changes (x := x) hr
    exact (changes_keep (P := fun _ => True) hchanges (fun _ _ _ => trivial) hs trivial).1
  | some opening =>
    rcases serve_stepping (x := x) hr with hsame | ⟨⟨st⟩⟩
    · exact hsame ▸ hs
    · exact st.committed.sound_of_owner (fun t ht => st.closes_own hr hs ht) hs

/-- Whatever the handlers are, tasks are listed with their instances in every history. -/
theorem sound_history {s : Supply} (rs : List Request) : (history e s rs).store.Sound := by
  induction rs using List.reverseRecOn with
  | nil => exact Store.sound_empty
  | append_singleton rs r ih =>
    rw [history_concat]
    exact sound_serve ih

theorem sound_of_reached {w : World} (h : w.Reached) : w.store.Sound := by
  induction h with
  | empty => exact Store.sound_empty
  | serve _ e a r ih => exact sound_serve (x := ⟨_, a⟩) ih

/-- A step that was started writes the first revision of its instance. -/
theorem Stepped.revision_start {name : String} {vars : Variables} {y : Session}
    (st : Stepped e x (.start name vars) (startOpening e name vars) y) :
    ∃ i, y.store.instance? st.step.settled.commit.record.id = some i ∧ i.revision = 1 := by
  have hrecord := st.committed.record st.step.settled.commit.record.id
  rw [if_pos rfl] at hrecord
  refine ⟨_, hrecord, ?_⟩
  obtain ⟨d, start, now, -, -, -, hopens⟩ := startOpening_ok st.run
  have hsettled : st.step.settled.commit.record.revision = st.step.record.revision := by
    change st.step.settled.record.revision = _
    rw [st.step.record_settled]
  have hzero : st.opens.step.record.revision = 0 := by
    rw [hopens]
    rfl
  rw [hsettled, (follow_moved st.follow).revision_eq, hzero]
  rfl

/-- A step that was not started belongs to an instance of the store. -/
theorem Stepped.known {opening : Action Opening} {y : Session} (st : Stepped e x r opening y)
    (hr : r.opening? e = some opening) (hs : x.store.Sound)
    (hstart : ∀ name vars, r ≠ .start name vars) :
    ∃ i, x.store.instance? st.opens.step.record.id = some i ∧
      st.opens.step.record = { i with
        currentNodes := st.opens.step.record.currentNodes
        vars := st.opens.step.record.vars
        failure := st.opens.step.record.failure } := by
  have hrun := st.run
  cases r with
  | start name vars => exact absurd rfl (hstart name vars)
  | complete taskId output =>
    cases hr
    obtain ⟨t, i, d, now, -, -, hi, -, -, hopens⟩ := completeOpening_ok hrun
    have hid : st.opens.step.record.id = i.id := by
      rw [hopens]
      split <;> rfl
    refine ⟨i, by rw [hid, hs.instances hi]; exact hi, ?_⟩
    rw [hopens]
    split <;> rfl
  | retry id =>
    cases hr
    obtain ⟨i, f, d, now, hi, -, -, -, hopens⟩ := retryOpening_ok hrun
    rw [hopens, Opening.step, pickUp_eq]
    exact ⟨i, by rw [← hs.instances hi] at hi; exact hi, rfl⟩
  | deploy d => cases hr
  | updateVariables id vars => cases hr
  | terminate id => cases hr
  | tick tolerance now => cases hr

/-- A request keeps where the instances come from, apart from one that it starts. -/
theorem serve_origin {id : Uuid} {j : Instance} (hs : x.store.Sound)
    (hj : (x.serve e r).store.instance? id = some j) :
    (∃ i, x.store.instance? id = some i ∧ SameOrigin i j) ∨
      ∃ name vars, r = .start name vars ∧ ∃ st : Stepped e x (.start name vars)
        (startOpening e name vars) (x.serve e (.start name vars)), st.step.record.id = id := by
  cases hr : r.opening? e with
  | none =>
    refine Or.inl ((changes_keep (P := fun store => ∀ j, store.instance? id = some j →
      ∃ i, x.store.instance? id = some i ∧ SameOrigin i j) (serve_changes (x := x) hr)
      (fun hchange hs hold k hk => ?_) hs fun j hj => ⟨j, hj, rfl, rfl, rfl, rfl⟩).2 j hj)
    obtain ⟨j, hj, hstill⟩ := hchange.still hs hk
    obtain ⟨i, hi, hsame⟩ := hold j hj
    exact ⟨i, hi, hsame.trans hstill.toSameOrigin⟩
  | some opening =>
    rcases serve_stepping (x := x) hr with hsame | ⟨⟨st⟩⟩
    · exact Or.inl ⟨j, hsame ▸ hj, rfl, rfl, rfl, rfl⟩
    by_cases hid : st.step.record.id = id
    · by_cases hstart : ∃ name vars, r = .start name vars
      · obtain ⟨name, vars, rfl⟩ := hstart
        cases hr
        exact Or.inr ⟨name, vars, rfl, st, hid⟩
      · obtain ⟨i, hi, hknown⟩ := st.known hr hs fun name vars h => hstart ⟨name, vars, h⟩
        have hmoved := follow_moved st.follow
        subst hid
        have hrecord := record_of_committed st.committed hj
        rw [st.step.record_settled, hmoved.record, hknown] at hrecord
        rw [hrecord]
        exact Or.inl ⟨i, hmoved.id_eq ▸ hi, rfl, rfl, rfl, rfl⟩
    · rw [instance?_of_committed st.committed fun h => hid h.symm] at hj
      exact Or.inl ⟨j, hj, rfl, rfl, rfl, rfl⟩

/-- What an operation does to the store, by its result: nothing, or one write of one instance. -/
structure Wrote (e : Engine) (x : Session) (r : Request) (id : Uuid) : Prop where
  result : x.result e r = .ok () ∨ ∃ n, x.result e r = .error (.routing id n)
  store : x.store.Rewrites id (x.serve e r).store
  first : ∀ name vars, r = .start name vars →
    ∃ i, (x.serve e r).store.instance? id = some i ∧ i.revision = 1
  known : (∀ name vars, r ≠ .start name vars) → ∃ i, x.store.instance? id = some i

theorem Stepped.wrote {opening : Action Opening} (st : Stepped e x r opening (x.serve e r))
    (hr : r.opening? e = some opening) (hs : x.store.Sound)
    (hresult : x.result e r = st.step.report) : x.Wrote e r st.step.record.id where
  result := by
    rw [hresult]
    exact st.step.report_eq.imp_right fun ⟨n, _, hn⟩ => ⟨n, hn⟩
  store := by
    have hrewrites := st.committed.rewrites fun t ht => st.closes_own hr hs ht
    rwa [st.step.id_commit] at hrewrites
  first name vars h := by
    subst h
    cases hr
    rw [← st.step.id_settled]
    exact st.revision_start
  known h := by
    obtain ⟨i, hi, -⟩ := st.known hr hs h
    exact ⟨i, by rwa [(follow_moved st.follow).id_eq]⟩

/-- From a sound store, an operation makes one write or none. -/
theorem wrote_or_same (hs : x.store.Sound) (hr : r.isOperation = true) :
    (∃ err, x.result e r = .error err ∧ (∀ id n, err ≠ .routing id n) ∧
        (x.serve e r).store = x.store) ∨ ∃ id, x.Wrote e r id := by
  cases hopening : r.opening? e with
  | some opening =>
    rcases serve_result (x := x) hopening with ⟨⟨err, hresult, hunwritten⟩, hsame⟩ | ⟨st, hresult⟩
    · exact Or.inl ⟨err, hresult, hunwritten.not_routing hopening, hsame⟩
    · exact Or.inr ⟨_, st.wrote hopening hs hresult⟩
  | none =>
    rcases hrun : Action.run x.world x.ambient (r.perform e) with ⟨⟨ret, a'⟩, w'⟩
    have hresult : x.result e r = ret := by
      unfold result
      rw [hrun]
    have hserve := serve_eq hrun
    cases r with
    | start name vars => cases hopening
    | complete taskId output => cases hopening
    | retry id => cases hopening
    | deploy d => cases hr
    | tick tolerance now => cases hr
    | updateVariables id vars =>
      rcases updateVariables_result e hrun with ⟨⟨err, rfl, hrefusal⟩, hsame⟩ |
        ⟨rfl, i, now, hi, -, hput⟩
      · exact Or.inl ⟨err, hresult, hrefusal.not_routing, by rw [hserve]; exact hsame⟩
      · have hstored : x.store.instance? i.id = some i := by
          rw [hs.instances hi]
          exact hi
        refine Or.inr ⟨i.id, Or.inl hresult, ?_, (fun _ _ h => nomatch h), fun _ => ⟨i, hstored⟩⟩
        rw [hserve, show (⟨w', a'⟩ : Session).store = _ from hput]
        have hexpects : x.store.Expects { i with vars := i.vars.union vars, updatedAt := now } :=
          hs.toKeyed.expects hi rfl rfl
        exact hexpects.rewrites
    | terminate id =>
      rcases run_lift_bind_cases hrun with ⟨err, hfail, -, -⟩ | ⟨now, a₁, -, hclose⟩
      · cases hfail
      · rcases close_result hclose with ⟨⟨err, rfl, hrefusal⟩, hsame⟩ |
          ⟨rfl, i, hi, -, hcommitted⟩
        · exact Or.inl ⟨err, hresult, hrefusal.not_routing, by rw [hserve]; exact hsame⟩
        · have hstored : x.store.instance? i.id = some i := by
            rw [hs.instances hi]
            exact hi
          refine Or.inr ⟨i.id, Or.inl hresult, ?_, (fun _ _ h => nomatch h), fun _ => ⟨i, hstored⟩⟩
          rw [hserve]
          exact hcommitted.rewrites (orderly_closing hs hi).owner

/-- Every operation on a world that requests lead to, with whatever handlers and listeners, makes one
write or none: it fails and leaves the store alone, or else it succeeds, or tells of a token that found
no way out, and has written over one instance and tasks of that instance only. -/
theorem one_write_or_none (hx : x.world.Reached) (hr : r.isOperation = true) :
    (∃ err, x.result e r = .error err ∧ (∀ id n, err ≠ .routing id n) ∧
        (x.serve e r).store = x.store) ∨ ∃ id, x.Wrote e r id :=
  wrote_or_same (sound_of_reached hx) hr

theorem reached_history (e : Engine) (s : Supply) (rs : List Request) :
    (history e s rs).world.Reached := by
  induction rs using List.reverseRecOn with
  | nil => exact .empty
  | append_singleton rs r ih =>
    rw [history_concat]
    exact .serve ih e (history e s rs).ambient r

/-- To complete the one task of a desk makes one write. -/
theorem one_write_or_none_desk :
    (history plainEngine countedIds [.deploy desk, .start "desk" ∅]).world.Reached ∧
      (Request.complete ⟨1⟩ ∅).isOperation = true ∧
      ∃ id, (history plainEngine countedIds [.deploy desk, .start "desk" ∅]).Wrote plainEngine
        (.complete ⟨1⟩ ∅) id := by
  have hreached := reached_history plainEngine countedIds [.deploy desk, .start "desk" ∅]
  have hresult : ((history plainEngine countedIds [.deploy desk, .start "desk" ∅]).result plainEngine
      (.complete ⟨1⟩ ∅)).isOk = true := by cbv
  refine ⟨hreached, rfl, ?_⟩
  rcases one_write_or_none (e := plainEngine) (r := .complete ⟨1⟩ ∅) hreached rfl with
    ⟨err, hfail, -⟩ | hwrote
  · rw [hfail] at hresult
    cases hresult
  · exact hwrote

end Session

end Workflow
