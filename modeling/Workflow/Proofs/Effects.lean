import Workflow.Proofs.Writes

/-!
What one operation on an instance does to the store (`effect_serve`). It writes over its instance or
not at all, and closes a task only to complete it or to end the instance.
-/
namespace Workflow

open Engine Engine.Action Session

/-- The operations on an instance, as the tasks of a store tell it. -/
def Request.Concerns (store : Store) (id : Uuid) : Request → Prop
  | complete taskId _ => ∀ t, store.task? taskId = some t → t.instanceId = id
  | updateVariables id' _ => id' = id
  | retry id' => id' = id
  | terminate id' => id' = id
  | _ => False

/-- Whether a request is to complete a task. -/
def Request.Completes (r : Request) (taskId : Uuid) : Prop := ∃ output, r = .complete taskId output

/-- What an operation on an instance may do to a store. -/
inductive Effect (r : Request) (id : Uuid) (store : Store) : Store → Prop
  | keeps : Effect r id store store
  | sets {i : Instance} (hid : i.id = id) (hi : store.Expects i) (hr : ∀ taskId, ¬ r.Completes taskId) :
    Effect r id store (store.putInstance i)
  | commits {c : Commit} {store' : Store} (hc : store.Committed c store') (hid : c.record.id = id)
    (hclosed : ∀ u ∈ c.updated, u.isOpen = false)
    (howner : ∀ u ∈ c.updated, ∃ t, store.task? u.id = some t ∧ t.instanceId = u.instanceId)
    (hcause : c.record.isActive = false ∨ ∀ u ∈ c.updated, r.Completes u.id)
    (hcompletes : ∀ taskId, r.Completes taskId →
      (∃ t, store.task? taskId = some t ∧ t.isOpen = true) ∧ ∃ u ∈ c.updated, u.id = taskId) :
    Effect r id store store'

variable {e : Engine} {x : Session} {r : Request} {id : Uuid}

theorem effect_complete {taskId : Uuid} {output : Variables} (hk : x.store.Keyed)
    (hr : (Request.complete taskId output).Concerns x.store id) :
    Effect (.complete taskId output) id x.store (x.serve e (.complete taskId output)).store := by
  rcases serve_stepping (e := e) (x := x) (r := .complete taskId output) rfl with hsame | ⟨⟨st⟩⟩
  · rw [hsame]
    exact .keeps
  obtain ⟨t, i, d, now, ht, hopen, hi, hactive, -, hopens⟩ := completeOpening_ok st.run
  change x.store.task? taskId = some t at ht
  change x.store.instance? t.instanceId = some i at hi
  have hid := (follow_moved st.follow).id_eq
  have hupdated := (follow_moved st.follow).updated
  have hstep : st.opens.step.record.id = i.id ∧ st.opens.step.updated = [handedIn t output now] := by
    rw [hopens]
    split <;> exact ⟨rfl, rfl⟩
  have htask : t.id = taskId := hk.tasks ht
  have hmem : ∀ {u}, u ∈ st.step.settled.commit.updated ↔ u = handedIn t output now := by
    intro u
    change u ∈ st.step.settled.updated ↔ _
    rw [st.step.updated_settled, hupdated, hstep.2, List.mem_singleton]
  refine .commits st.committed ?_ (fun u hu => ?_) (fun u hu => ?_) (Or.inr fun u hu => ?_) ?_
  · change st.step.settled.record.id = id
    rw [st.step.id_settled, hid, hstep.1, hk.instances hi, hr t ht]
  · rw [hmem.1 hu]
    rfl
  · rw [hmem.1 hu]
    exact ⟨t, (congrArg x.store.task? htask).trans ht, rfl⟩
  · rw [hmem.1 hu]
    exact ⟨output, congrArg (Request.complete · output) htask.symm⟩
  · rintro taskId' ⟨output', hsame⟩
    cases hsame
    exact ⟨⟨t, ht, hopen⟩, _, hmem.2 rfl, htask⟩

theorem effect_retry (hk : x.store.Keyed) :
    Effect (.retry id) id x.store (x.serve e (.retry id)).store := by
  rcases serve_stepping (e := e) (x := x) (r := .retry id) rfl with hsame | ⟨⟨st⟩⟩
  · rw [hsame]
    exact .keeps
  obtain ⟨i, f, d, now, hi, hactive, hf, -, hopens⟩ := retryOpening_ok st.run
  change x.store.instance? id = some i at hi
  have hid := (follow_moved st.follow).id_eq
  have hupdated := (follow_moved st.follow).updated
  have hstep : st.opens.step.record.id = i.id ∧ st.opens.step.updated = [] := by
    rw [hopens, Opening.step, pickUp_eq]
    exact ⟨rfl, rfl⟩
  have hnone : st.step.settled.commit.updated = [] := by
    change st.step.settled.updated = []
    rw [st.step.updated_settled, hupdated, hstep.2]
  refine .commits st.committed ?_ ?_ ?_ (Or.inr ?_) ?_
  · change st.step.settled.record.id = id
    rw [st.step.id_settled, hid, hstep.1, hk.instances hi]
  · simp [hnone]
  · simp [hnone]
  · simp [hnone]
  · rintro taskId ⟨output, hr⟩
    cases hr

theorem effect_updateVariables {vars : Variables} (hk : x.store.Keyed) :
    Effect (.updateVariables id vars) id x.store (x.serve e (.updateVariables id vars)).store := by
  rcases hrun : Action.run x.world x.ambient (Engine.updateVariables id vars) with ⟨⟨ret, a'⟩, w'⟩
  have hserve : (x.serve e (.updateVariables id vars)).store = w'.store :=
    congrArg store (serve_eq hrun)
  rw [hserve]
  rcases updateVariables_result e hrun with ⟨-, hsame⟩ | ⟨-, i, now, hi, hactive, hput⟩
  · rw [hsame]
    exact .keeps
  · have hid : i.id = id := hk.instances hi
    rw [hput]
    refine .sets hid (hk.expects hi rfl rfl) ?_
    rintro taskId ⟨output, hr⟩
    cases hr

theorem effect_terminate (hk : x.store.Keyed) :
    Effect (.terminate id) id x.store (x.serve e (.terminate id)).store := by
  rcases hrun : Action.run x.world x.ambient (terminate e id) with ⟨⟨ret, a'⟩, w'⟩
  have hserve : (x.serve e (.terminate id)).store = w'.store := congrArg store (serve_eq hrun)
  rw [hserve]
  rcases run_lift_bind_cases hrun with ⟨err, -, -, rfl⟩ | ⟨now, a₁, -, hclose⟩
  · exact .keeps
  rcases close_result hclose with ⟨-, hsame⟩ | ⟨-, i, hi, hactive, hcommitted⟩
  · rw [hsame]
    exact .keeps
  · have hid : i.id = id := hk.instances hi
    have hmem : ∀ u ∈ (closing i (x.store.tasksOf id) Ending.termination.state now).commit.updated,
        ∃ t ∈ x.store.tasksOf id, u = { t with state := .terminated, completedAt := some now } := by
      intro u hu
      obtain ⟨t, ht, rfl⟩ := List.mem_map.1 hu
      exact ⟨t, (List.mem_filter.1 ht).1, rfl⟩
    refine .commits hcommitted hid (fun u hu => ?_) (fun u hu => ?_) (Or.inl rfl) ?_
    · obtain ⟨t, -, rfl⟩ := hmem u hu
      rfl
    · obtain ⟨t, ht, rfl⟩ := hmem u hu
      obtain ⟨key, -, hkey⟩ := List.mem_filterMap.1 ht
      exact ⟨t, (congrArg x.store.task? (hk.tasks hkey)).trans hkey, rfl⟩
    · rintro taskId ⟨output, hr⟩
      cases hr

/-- What an operation on an instance does to the store. -/
theorem effect_serve (hk : x.store.Keyed) (hr : r.Concerns x.store id) :
    Effect r id x.store (x.serve e r).store := by
  cases r with
  | complete taskId output => exact effect_complete hk hr
  | updateVariables id' vars =>
    cases hr
    exact effect_updateVariables hk
  | retry id' =>
    cases hr
    exact effect_retry hk
  | terminate id' =>
    cases hr
    exact effect_terminate hk
  | deploy d => exact hr.elim
  | start definitionId vars => exact hr.elim
  | tick tolerance now => exact hr.elim

/-! ### What follows from an effect -/

namespace Effect

variable {r' : Request} {taskId : Uuid} {t : Task} {store store' : Store}
  (h : Effect r id store store')
include h

theorem keyed (hk : store.Keyed) : store'.Keyed := by
  cases h with
  | keeps => exact hk
  | sets hid hi hr => exact hk.putInstance
  | commits hc hid hclosed howner hcause hcompletes => exact hc.keyed hk

/-- An operation that concerns the instance does so afterwards. -/
theorem concerns (hr' : r'.Concerns store id) : r'.Concerns store' id := by
  cases r' with
  | complete taskId' output =>
    intro t ht
    cases h with
    | keeps => exact hr' t ht
    | sets hid hi hr => exact hr' t ht
    | commits hc hid hclosed howner hcause hcompletes =>
      rcases hc.task?_cases ht with ⟨hmem, hkey⟩ | ⟨hmem, -⟩ | ⟨hold, -⟩
      · obtain ⟨u, hu, hsame⟩ := howner t hmem
        rw [← hsame]
        exact hr' u (hkey ▸ hu)
      · exact (hc.fresh t hmem).1.trans hid
      · exact hr' t hold
  | _ => exact hr'

/-- A task stays as it is unless it is completed or the instance is ended. -/
theorem task_cases (ht : store.task? taskId = some t) : store'.task? taskId = some t ∨
    r.Completes taskId ∨ ∀ i, store'.instance? id = some i → i.isActive = false := by
  cases h with
  | keeps => exact Or.inl ht
  | sets hid hi hr => exact Or.inl ht
  | commits hc hid hclosed howner hcause hcompletes =>
    rcases hc.tasks taskId with ⟨u, hu, rfl, -⟩ | ⟨hne, -⟩
    · -- a task is written over by its own completion or by the end of the instance
      rcases hcause with hinactive | hcompleted
      · refine Or.inr (Or.inr fun i hi => ?_)
        rw [hc.record, if_pos hid.symm] at hi
        rw [← Option.some.inj hi]
        exact hinactive
      · exact Or.inr (Or.inl (hcompleted u hu))
    · exact Or.inl (hc.task?_of_kept hne ht)

/-- A closed task stays closed. -/
theorem closed (ht : store.task? taskId = some t) (hclosed : t.isOpen = false) :
    ∃ u, store'.task? taskId = some u ∧ u.isOpen = false := by
  cases h with
  | keeps => exact ⟨t, ht, hclosed⟩
  | sets hid hi hr => exact ⟨t, ht, hclosed⟩
  | commits hc hid hclosing howner hcause hcompletes =>
    rcases hc.tasks taskId with ⟨u, hu, -, hsome⟩ | ⟨-, ⟨u, hu, rfl, -⟩ | ⟨-, hsame⟩⟩
    · exact ⟨u, hsome, hclosing u hu⟩
    · rw [(hc.fresh u hu).2] at ht
      cases ht
    · exact ⟨t, hsame.trans ht, hclosed⟩

/-- A completion closes its task or does nothing. -/
theorem closes (hr : r.Completes taskId) :
    store' = store ∨ ∃ u, store'.task? taskId = some u ∧ u.isOpen = false := by
  cases h with
  | keeps => exact Or.inl rfl
  | sets hid hi hr' => exact absurd hr (hr' taskId)
  | commits hc hid hclosed howner hcause hcompletes =>
    obtain ⟨-, u, hu, rfl⟩ := hcompletes taskId hr
    rcases hc.tasks u.id with ⟨v, hv, -, hsome⟩ | ⟨hne, -⟩
    · exact Or.inr ⟨v, hsome, hclosed v hv⟩
    · exact absurd rfl (hne u hu)

/-- A closed task is not completed again. -/
theorem eq_of_closed (hr : r.Completes taskId) (ht : store.task? taskId = some t)
    (hclosed : t.isOpen = false) : store' = store := by
  cases h with
  | keeps => rfl
  | sets hid hi hr' => exact absurd hr (hr' taskId)
  | commits hc hid hclosing howner hcause hcompletes =>
    obtain ⟨⟨u, hu, hopen⟩, -⟩ := hcompletes taskId hr
    rw [Option.some.inj (ht.symm.trans hu), hopen] at hclosed
    cases hclosed

/-- An operation that changes anything adds one to the revisions. -/
theorem revisions : store' = store ∨ store'.revisions = store.revisions + 1 := by
  cases h with
  | keeps => exact Or.inl rfl
  | sets hid hi hr => exact Or.inr (Store.revisions_putInstance hi)
  | commits hc hid hclosed howner hcause hcompletes =>
    apply Or.inr
    rw [← Store.revisions_putInstance hc.revision, Store.revisions, hc.instances]
    rfl

end Effect

end Workflow
