import Workflow.Proofs.Whereabouts

/-!
Lifecycles only move forward. Whatever is served, instances and tasks stay in the store, those that are
closed stay as they are, and the others keep what they were made with (`Store.Onward`). No step belongs to
a closed instance, and every operation on one is turned down (`lifecycles_move_forward`).
-/
namespace Workflow

open Relation
open Time (Instant)
open Engine Engine.Action

/-- A task and what became of it. -/
structure Task.Onward (t u : Task) : Prop where
  id : u.id = t.id
  instanceId : u.instanceId = t.instanceId
  node : u.node = t.node
  assignees : u.assignees = t.assignees
  createdAt : u.createdAt = t.createdAt
  state : u.state = t.state ∨ t.state = .created ∧ (u.state = .completed ∨ u.state = .terminated)
  closed : t.isOpen = false → u = t

/-- An instance and what became of it. -/
structure Instance.Onward (i j : Instance) : Prop where
  id : j.id = i.id
  state : j.state = i.state ∨ i.state = .active ∧ j.state.isTerminal = true
  closed : i.isActive = false → j = i

/-- A store and what became of it. -/
structure Store.Onward (x y : Store) : Prop where
  instances : ∀ {id i}, x.instance? id = some i → ∃ j, y.instance? id = some j ∧ i.Onward j
  tasks : ∀ {id t}, x.task? id = some t → ∃ u, y.task? id = some u ∧ t.Onward u
  /-- The tasks of an instance that is closed, those among them that were left open too. -/
  settled : ∀ {id i}, x.instance? id = some i → i.isActive = false →
    y.tasksOf id = x.tasksOf id ∧
      ∀ {key t}, x.task? key = some t → t.instanceId = id → y.task? key = some t

namespace Task.Onward

variable {t u v : Task}

theorem refl (t : Task) : t.Onward t := ⟨rfl, rfl, rfl, rfl, rfl, Or.inl rfl, fun _ => rfl⟩

theorem trans (h : t.Onward u) (h' : u.Onward v) : t.Onward v where
  id := h'.id.trans h.id
  instanceId := h'.instanceId.trans h.instanceId
  node := h'.node.trans h.node
  assignees := h'.assignees.trans h.assignees
  createdAt := h'.createdAt.trans h.createdAt
  state := by
    rcases h'.state with hsame | ⟨hcreated, hclosed⟩
    · rw [hsame]
      exact h.state
    · rcases h.state with hsame | ⟨-, hdone | hdone⟩
      · exact Or.inr ⟨hsame ▸ hcreated, hclosed⟩
      · rw [hdone] at hcreated
        cases hcreated
      · rw [hdone] at hcreated
        cases hcreated
  closed hclosed := by
    obtain rfl := h.closed hclosed
    exact h'.closed hclosed

/-- To close an open task moves it on. -/
theorem of_open {state : TaskState} {output : Variables} {done : Option Instant}
    (hopen : t.isOpen = true) (hstate : state = .completed ∨ state = .terminated) :
    t.Onward { t with state := state, output := output, completedAt := done } := by
  refine ⟨rfl, rfl, rfl, rfl, rfl, Or.inr ⟨by simpa [isOpen] using hopen, hstate⟩, fun hclosed => ?_⟩
  rw [hopen] at hclosed
  cases hclosed

end Task.Onward

namespace Instance

variable {i j k : Instance}

theorem isActive_iff : i.isActive = true ↔ i.state = .active := beq_iff_eq

theorem isActive_eq_false_iff : i.isActive = false ↔ i.state.isTerminal = true := by
  cases h : i.state <;> simp [isActive, InstanceState.isTerminal, h]

namespace Onward

theorem refl (i : Instance) : i.Onward i := ⟨rfl, Or.inl rfl, fun _ => rfl⟩

theorem trans (h : i.Onward j) (h' : j.Onward k) : i.Onward k where
  id := h'.id.trans h.id
  state := by
    rcases h.state with hsame | ⟨hactive, hterminal⟩
    · rw [← hsame]
      exact h'.state
    · rw [h'.closed (isActive_eq_false_iff.2 hterminal)]
      exact Or.inr ⟨hactive, hterminal⟩
  closed hclosed := by
    obtain rfl := h.closed hclosed
    exact h'.closed hclosed

theorem of_active (hid : j.id = i.id) (hactive : i.isActive = true) : i.Onward j := by
  refine ⟨hid, ?_, fun hclosed => ?_⟩
  · rw [isActive_iff.1 hactive]
    by_cases hj : j.isActive = true
    · exact Or.inl (isActive_iff.1 hj)
    · exact Or.inr ⟨rfl, isActive_eq_false_iff.1 (by simpa using hj)⟩
  · rw [hactive] at hclosed
    cases hclosed

end Onward

end Instance

namespace Store

variable {x y z : Store} {c : Commit} {i : Instance}

/-- A write of an instance alone is one of a step without tasks. -/
theorem Expects.committed (h : x.Expects i) : x.Committed ⟨i, [], []⟩ (x.putInstance i) where
  revision := h
  fresh _ ht := nomatch ht
  known _ ht := nomatch ht
  definitions := rfl
  record _ := instance?_putInstance
  tasks id := Or.inr ⟨(fun _ ht => nomatch ht), Or.inr ⟨(fun _ ht => nomatch ht), rfl⟩⟩
  listing owner := by
    rw [List.map_nil, List.append_nil]
    split
    · rename_i howner
      rw [howner]
      rfl
    · rfl

namespace Onward

theorem refl (x : Store) : x.Onward x :=
  ⟨fun h => ⟨_, h, .refl _⟩, fun h => ⟨_, h, .refl _⟩, fun _ _ => ⟨rfl, fun h _ => h⟩⟩

theorem trans (h : x.Onward y) (h' : y.Onward z) : x.Onward z where
  instances hi := by
    obtain ⟨j, hj, hij⟩ := h.instances hi
    obtain ⟨k, hk, hjk⟩ := h'.instances hj
    exact ⟨k, hk, hij.trans hjk⟩
  tasks ht := by
    obtain ⟨u, hu, htu⟩ := h.tasks ht
    obtain ⟨v, hv, huv⟩ := h'.tasks hu
    exact ⟨v, hv, htu.trans huv⟩
  settled hi hclosed := by
    obtain ⟨hlist, htasks⟩ := h.settled hi hclosed
    obtain ⟨j, hj, hij⟩ := h.instances hi
    obtain rfl := hij.closed hclosed
    obtain ⟨hlist', htasks'⟩ := h'.settled hj hclosed
    exact ⟨hlist'.trans hlist, fun ht howner => htasks' (htasks ht howner) howner⟩

/-- A step moves the store on that belongs to an active or to a new instance and moves tasks of it on. -/
theorem of_committed (hs : x.Sound) (h : x.Committed c y)
    (hactive : ∀ i, x.instance? c.record.id = some i → i.isActive = true)
    (hupdated : ∀ t ∈ c.updated,
      ∃ u, x.task? t.id = some u ∧ u.instanceId = c.record.id ∧ u.Onward t) : x.Onward y := by
  -- tasks of other instances are left alone
  have hothers : ∀ {key t}, x.task? key = some t → t.instanceId ≠ c.record.id →
      y.task? key = some t := by
    intro key t ht hne
    refine h.task?_of_kept (fun v hv hkey => hne ?_) ht
    obtain ⟨u, hu, howner, -⟩ := hupdated v hv
    rw [hkey, ht] at hu
    exact Option.some.inj hu ▸ howner
  have hinstance : ∀ {id i}, x.instance? id = some i → i.isActive = false → id ≠ c.record.id := by
    rintro id i hi hclosed rfl
    rw [hactive i hi] at hclosed
    cases hclosed
  refine ⟨fun {id i} hi => ?_, fun {key t} ht => ?_, fun {id i} hi hclosed => ⟨?_, ?_⟩⟩
  · rw [h.record]
    split
    · rename_i hid
      subst hid
      exact ⟨_, rfl, .of_active (hs.instances hi).symm (hactive i hi)⟩
    · exact ⟨i, hi, .refl i⟩
  · rcases h.tasks key with ⟨u, hu, rfl, hsome⟩ | ⟨-, ⟨u, hu, rfl, -⟩ | ⟨-, hsame⟩⟩
    · obtain ⟨v, hv, -, honward⟩ := hupdated u hu
      obtain rfl : v = t := Option.some.inj (hv.symm.trans ht)
      exact ⟨u, hsome, honward⟩
    · -- what is created was not there
      rw [(h.fresh u hu).2] at ht
      cases ht
    · exact ⟨t, hsame.trans ht, .refl t⟩
  · have hne := hinstance hi hclosed
    change (y.order id).filterMap y.task? = (x.order id).filterMap x.task?
    rw [h.listing, if_neg hne]
    refine List.filterMap_congr fun key hkey => ?_
    obtain ⟨t, ht, howner⟩ := hs.owned hkey
    rw [ht, hothers ht (howner ▸ hne)]
  · intro key t ht howner
    exact hothers ht (howner ▸ hinstance hi hclosed)

end Onward

end Store

namespace Engine.Action

variable {w : World} {a : Ambient} {id : Uuid} {i : Instance} {t : Task}

theorem run_activeInstance_of_closed (hi : w.store.instance? id = some i)
    (hclosed : i.isActive = false) : run w a (activeInstance id) =
      ((.error (.state (.instanceClosed id i.state.text)), a), w) := by
  have hload : run w a (ask (.loadInstance id)) = ((.ok (.ok (some i)), a), w) := by
    rw [← hi]
    rfl
  have hfind : run w a (findInstance id) = ((.ok i, a), w) := by
    rw [findInstance, run_bind_ok hload]
    rfl
  rw [activeInstance, run_bind_ok hfind, if_pos (Instance.isActive_eq_false_iff.1 hclosed)]
  rfl

theorem run_trace {entry : TraceEntry} : run w a (liftM (Attempt.trace entry) : Action Unit) =
    ((.ok (), { a with trace := entry :: a.trace }), w) := rfl

theorem run_openTask_of_closed (ht : w.store.task? id = some t) (hclosed : t.isOpen = false) :
    run w a (openTask id) = ((.error (.state (.taskClosed id t.state.text)), a), w) := by
  have hload : run w a (ask (.loadTask id)) = ((.ok (.ok (some t)), a), w) := by
    rw [← ht]
    rfl
  have haccepted : run w a (accepted (.ok (some t))) = ((.ok (some t), a), w) := rfl
  rw [openTask, run_bind_ok hload, run_bind_ok haccepted]
  simp only [hclosed, Bool.false_eq_true, if_false]
  rfl

theorem run_openTask_of_open (ht : w.store.task? id = some t) (hopen : t.isOpen = true) :
    run w a (openTask id) = ((.ok t, a), w) := by
  have hload : run w a (ask (.loadTask id)) = ((.ok (.ok (some t)), a), w) := by
    rw [← ht]
    rfl
  have haccepted : run w a (accepted (.ok (some t))) = ((.ok (some t), a), w) := rfl
  rw [openTask, run_bind_ok hload, run_bind_ok haccepted]
  simp only [hopen, if_true]
  rfl

end Engine.Action

namespace Session

variable {e : Engine} {x y : Session} {r : Request}

/-! ### One request -/

theorem Change.onward {store store' : Store} (h : Change store store') (hs : store.Sound) :
    store.Onward store' := by
  cases h with
  | defines d => exact ⟨fun h => ⟨_, h, .refl _⟩, fun h => ⟨_, h, .refl _⟩, fun _ _ => ⟨rfl, fun h _ => h⟩⟩
  | @sets id i now vars hi hactive =>
    have hexpects : store.Expects { i with vars := i.vars.union vars, updatedAt := now } :=
      hs.toKeyed.expects hi rfl rfl
    refine .of_committed hs hexpects.committed (fun j hj => ?_) fun t ht => nomatch ht
    have hj : store.instance? i.id = some j := hj
    rw [hs.instances hi, hi] at hj
    exact Option.some.inj hj ▸ hactive
  | @closes _ id i now ending hi hactive hcommitted =>
    have hid : i.id = id := hs.instances hi
    refine .of_committed hs hcommitted (fun j hj => ?_) fun t ht => ?_
    · have hj : store.instance? i.id = some j := hj
      rw [hid, hi] at hj
      exact Option.some.inj hj ▸ hactive
    · obtain ⟨u, hu, rfl⟩ := List.mem_map.1 ht
      obtain ⟨hu, hopen⟩ := List.mem_filter.1 hu
      obtain ⟨hu, howner⟩ := hs.mem_tasksOf.1 hu
      exact ⟨u, hu, howner.trans hid.symm, .of_open hopen (Or.inr rfl)⟩

namespace Opens

variable {store : Store} {supply supply' : Supply} {o : Opening}

theorem onward_of_handedIn {id : Uuid} {t u : Task} {i : Instance} {output : Variables}
    {now : Instant} (hs : store.Sound) (ht : store.task? id = some t) (hopen : t.isOpen = true)
    (hi : store.instance? t.instanceId = some i) (hu : u ∈ (completion i t output now).updated) :
    ∃ v, store.task? u.id = some v ∧ v.instanceId = i.id ∧ v.Onward u := by
  obtain rfl : u = handedIn t output now := List.mem_singleton.1 hu
  refine ⟨t, ?_, (hs.instances hi).symm, .of_open hopen (Or.inl rfl)⟩
  rwa [show (handedIn t output now).id = t.id from rfl, hs.tasks ht]

/-- The step of a request moves on one task of its instance at most, which it completes. -/
theorem updated_onward (h : Opens e store supply o supply') (hs : store.Sound) {t : Task}
    (ht : t ∈ o.step.updated) :
    ∃ u, store.task? t.id = some u ∧ u.instanceId = o.step.record.id ∧ u.Onward t := by
  cases h with
  | starts hstart hdrawn => cases ht
  | stays ht' hopen hi hactive hothers =>
    have honward := onward_of_handedIn hs ht' hopen hi ht
    exact honward
  | leaves ht' hopen hi hactive hlast =>
    have honward := onward_of_handedIn hs ht' hopen hi ht
    exact honward
  | retries hi hactive hf =>
    rw [Opening.step, pickUp_eq] at ht
    cases ht

/-- The step of a request belongs to an active instance, or to a new one of the next id. -/
theorem active_or_new (h : Opens e store supply o supply') (hs : store.Sound) {i : Instance}
    (hi : store.instance? o.step.record.id = some i) : i.isActive = true ∨
      o.step.record.id = supply.ids supply.drawn ∧ supply.drawn < supply'.drawn := by
  have hsame : ∀ {id : Uuid} {j : Instance}, store.instance? id = some j → j.isActive = true →
      store.instance? j.id = some i → i.isActive = true := by
    intro id j hj hactive hi
    rw [hs.instances hj, hj] at hi
    exact Option.some.inj hi ▸ hactive
  cases h with
  | starts hstart hdrawn => exact Or.inr ⟨rfl, hdrawn⟩
  | stays ht hopen hj hactive hothers => exact Or.inl (hsame hj hactive hi)
  | leaves ht hopen hj hactive hlast => exact Or.inl (hsame hj hactive hi)
  | retries hj hactive hf =>
    rw [Opening.step, pickUp_eq] at hi
    exact Or.inl (hsame hj hactive hi)

end Opens

/-- No step belongs to a closed instance, as no id was drawn twice. -/
theorem Stepped.active {opening : Action Opening} (hdraws : e.registry.Draws) (hs : x.store.Sound)
    (hhoused : Housed x.supply x.store) (hgrows : x.supply.Grows y.supply) (hd : y.supply.Distinct)
    (hr : r.opening? e = some opening) (st : Stepped e x r opening y) {i : Instance}
    (hi : x.store.instance? st.step.record.id = some i) : i.isActive = true := by
  rw [(follow_moved st.follow).id_eq] at hi
  rcases (st.opens_store hr).active_or_new hs hi with hactive | ⟨hnext, hlt⟩
  · exact hactive
  · obtain ⟨p, hp, hsame⟩ := hhoused.drawn hi
    have hdrawn := Nat.lt_of_lt_of_le hlt (st.grows hdraws).drawn
    rw [hnext, ← hgrows.ids] at hsame
    exact absurd (hd p _ (Nat.lt_trans hp hdrawn) hdrawn hsame) (Nat.ne_of_lt hp)

theorem Stepped.onward {opening : Action Opening} (hdraws : e.registry.Draws) (hs : x.store.Sound)
    (hhoused : Housed x.supply x.store) (hgrows : x.supply.Grows y.supply) (hd : y.supply.Distinct)
    (hr : r.opening? e = some opening) (st : Stepped e x r opening y) : x.store.Onward y.store := by
  have hmoved := follow_moved st.follow
  refine .of_committed hs st.committed (fun i hi => ?_) fun t ht => ?_
  · rw [st.step.id_commit] at hi
    exact st.active hdraws hs hhoused hgrows hd hr hi
  · rw [st.step.id_commit, hmoved.id_eq]
    refine (st.opens_store hr).updated_onward hs ?_
    rw [← hmoved.updated, ← st.step.updated_settled]
    exact ht

theorem onward_serve (hdraws : e.registry.Draws) (hs : x.store.Sound)
    (hhoused : Housed x.supply x.store) (hd : (x.serve e r).supply.Distinct) :
    x.store.Onward (x.serve e r).store := by
  cases hr : r.opening? e with
  | none =>
    exact (changes_keep (P := x.store.Onward) (serve_changes (x := x) hr)
      (fun hchange hs h => h.trans (hchange.onward hs)) hs (.refl _)).2
  | some opening =>
    rcases serve_stepping (x := x) hr with hsame | ⟨⟨st⟩⟩
    · rw [hsame]
      exact .refl _
    · exact st.onward hdraws hs hhoused (grows_serve hdraws x r) hd hr

/-! ### Closed instances -/

/-- Every operation on this instance is turned down, as it is closed. -/
structure Refuses (e : Engine) (x : Session) (i : Instance) : Prop where
  complete : ∀ {taskId t} output, x.store.task? taskId = some t → t.instanceId = i.id →
    ∃ cause, x.result e (.complete taskId output) = .error (.state cause)
  updateVariables : ∀ vars,
    x.result e (.updateVariables i.id vars) = .error (.state (.instanceClosed i.id i.state.text))
  retry : x.result e (.retry i.id) = .error (.state (.instanceClosed i.id i.state.text))
  terminate : x.result e (.terminate i.id) = .error (.state (.instanceClosed i.id i.state.text))

theorem result_of_run_opening {opening : Action Opening} {err : EngineError}
    (hr : r.opening? e = some opening)
    (h : (Action.run x.world (r.noted x.ambient) opening).1.1 = .error err) :
    x.result e r = .error err := by
  rcases hrun : Action.run x.world (r.noted x.ambient) opening with ⟨⟨ret, a'⟩, w'⟩
  obtain rfl : ret = .error err := by rw [← h, hrun]
  have hcarry : Action.run x.world (r.noted x.ambient) (carryOut e opening) =
      ((.error err, a'), w') := run_bind_error hrun
  obtain ⟨a'', hperform, -⟩ := run_perform hr hcarry
  unfold result
  rw [hperform]
  rfl

theorem refuses_of_closed {i : Instance} (hi : x.store.instance? i.id = some i)
    (hclosed : i.isActive = false) : x.Refuses e i where
  complete {taskId t} output ht howner := by
    have hopening : (Request.complete taskId output).opening? e =
        some (completeOpening e taskId output) := rfl
    by_cases hopen : t.isOpen = true
    · -- a task that was left open cannot be completed either
      refine ⟨.instanceClosed i.id i.state.text, result_of_run_opening hopening ?_⟩
      rw [completeOpening, run_bind_ok (run_openTask_of_open ht hopen), run_bind_ok run_trace,
        run_bind_ok run_trace, howner, run_bind_error (run_activeInstance_of_closed hi hclosed)]
    · refine ⟨.taskClosed taskId t.state.text, result_of_run_opening hopening ?_⟩
      rw [completeOpening, run_bind_error (run_openTask_of_closed ht (by simpa using hopen))]
  updateVariables vars := by
    rw [result, Request.perform, Engine.updateVariables,
      run_bind_error (run_activeInstance_of_closed hi hclosed)]
  retry := by
    have hopening : (Request.retry i.id).opening? e = some (retryOpening e i.id) := rfl
    refine result_of_run_opening hopening ?_
    rw [retryOpening, run_bind_error (run_activeInstance_of_closed hi hclosed)]
  terminate := by
    have hnow : Action.run x.world x.ambient (liftM Attempt.now : Action Instant) =
        ((.ok x.supply.now.1, { x.ambient with supply := x.supply.now.2 }), x.world) := rfl
    rw [result, Request.perform, Engine.terminate, run_bind_ok hnow, close,
      run_bind_error (run_activeInstance_of_closed hi hclosed)]

/-! ### Histories -/

/-- Histories move their store forward, as long as no id is drawn twice; and once an instance is closed,
every operation on it is turned down, however much is served in between. -/
theorem lifecycles_move_forward {s : Supply} (hdraws : e.registry.Draws)
    (earlier later : List Request) (hd : (history e s (earlier ++ later)).supply.Distinct) :
    (history e s earlier).store.Onward (history e s (earlier ++ later)).store ∧
      ∀ {id i}, (history e s earlier).store.instance? id = some i → i.isActive = false →
        (history e s (earlier ++ later)).Refuses e i := by
  have honward : (history e s earlier).store.Onward (history e s (earlier ++ later)).store := by
    induction later using List.reverseRecOn with
    | nil =>
      rw [List.append_nil]
      exact .refl _
    | append_singleton later r ih =>
      rw [← List.append_assoc, history_concat] at hd ⊢
      exact (ih (hd.of_grows (grows_serve hdraws _ r))).trans
        (onward_serve hdraws (sound_history _) (housed_history hdraws _) hd)
  refine ⟨honward, fun {id i} hi hclosed => ?_⟩
  obtain ⟨j, hj, hij⟩ := honward.instances hi
  obtain rfl := hij.closed hclosed
  have hid : j.id = id := (sound_history _).instances hj
  exact refuses_of_closed (by rwa [hid]) hclosed

/-- A desk whose one task was completed stays complete, whatever is asked of it afterwards. -/
theorem lifecycles_move_forward_desk :
    plainEngine.registry.Draws ∧
      (history plainEngine countedIds ([.deploy desk, .start "desk" ∅, .complete ⟨1⟩ ∅] ++
        [.start "desk" ∅, .terminate ⟨0⟩])).supply.Distinct ∧
      ∃ i : Instance, i.state = .complete ∧
        (history plainEngine countedIds ([.deploy desk, .start "desk" ∅, .complete ⟨1⟩ ∅] ++
          [.start "desk" ∅, .terminate ⟨0⟩])).store.instance? ⟨0⟩ = some i ∧
        (history plainEngine countedIds ([.deploy desk, .start "desk" ∅, .complete ⟨1⟩ ∅] ++
          [.start "desk" ∅, .terminate ⟨0⟩])).Refuses plainEngine i := by
  have hdraws := plainEngine_mints.draws
  have hd : (history plainEngine countedIds ([.deploy desk, .start "desk" ∅, .complete ⟨1⟩ ∅] ++
      [.start "desk" ∅, .terminate ⟨0⟩])).supply.Distinct :=
    distinct_countedIds (n := 4) (by decide) (by cbv)
  obtain ⟨honward, hrefuses⟩ := lifecycles_move_forward hdraws _ _ hd
  have hstate : ((history plainEngine countedIds
      [.deploy desk, .start "desk" ∅, .complete ⟨1⟩ ∅]).store.instance? ⟨0⟩).map
        (fun i => i.state) = some .complete := by cbv
  obtain ⟨i, hi, hcomplete⟩ := Option.map_eq_some_iff.1 hstate
  have hclosed : i.isActive = false := by rw [Instance.isActive, hcomplete]; rfl
  obtain ⟨j, hj, hij⟩ := honward.instances hi
  obtain rfl := hij.closed hclosed
  exact ⟨hdraws, hd, j, hcomplete, hj, hrefuses hi hclosed⟩

end Session

end Workflow
