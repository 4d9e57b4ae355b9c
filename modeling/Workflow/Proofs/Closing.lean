import Workflow.Proofs.Atomicity
import Workflow.Proofs.Updates

/-!
How an instance is ended from outside. Everybody is told first: an instance is ended if no listener
refuses one of its closing events (`run_close_of_told`), and else nothing is written
(`run_close_of_refused`). What is written is the end of the instance and of its open tasks
(`Store.expired_of_committed`).
-/
namespace Workflow

open Time (Instant)
open Engine Engine.Action Engine.Attempt

/-! ### Events -/

/-- Hands out events one after another, no further than to the first one that a listener refuses. -/
def Bus.tell (b : Bus) (past : List Delivery) : List Event → Except String Unit × List Delivery
  | [] => (.ok (), past)
  | ev :: evs =>
    match b.notify past ev with
    | (.ok (), past) => b.tell past evs
    | (.error m, past) => (.error m, past)

theorem Bus.tell_append (b : Bus) (past : List Delivery) (evs evs' : List Event) :
    b.tell past (evs ++ evs') = match b.tell past evs with
      | (.ok (), past) => b.tell past evs'
      | (.error m, past) => (.error m, past) := by
  induction evs generalizing past with
  | nil => rfl
  | cons ev evs ih =>
    rw [List.cons_append, tell, tell]
    rcases b.notify past ev with ⟨m | u, past⟩
    · rfl
    · exact ih past

/-- A task that is closed along with its instance. -/
def Task.ended (t : Task) (now : Instant) : Task :=
  { t with state := .terminated, completedAt := some now }

/-- What is told of open tasks that are closed along with their instance. -/
def endedEvents (ts : List Task) (now : Instant) : List Event :=
  (ts.filter Task.isOpen).map fun t => .task (.terminated (t.ended now))

/-- What is told before an instance is ended. -/
def Store.closingEvents (x : Store) (i : Instance) (ending : Ending) (now : Instant) : List Event :=
  endedEvents (x.tasksOf i.id) now ++ [.instanceRecord (ending.event i.id i.definitionId now)]

namespace Engine

variable {e : Engine} {w : World} {a : Ambient} {i : Instance} {ending : Ending} {now : Instant}

theorem notify_eq (b : Bus) (ev : Event) (a : Ambient) : notify b ev a =
    ((b.notify a.deliveries ev).1.mapError .listener,
      { a with deliveries := (b.notify a.deliveries ev).2 }) := by
  rw [notify, bind_ok get_eq]
  rcases b.notify a.deliveries ev with ⟨m | u, deliveries⟩ <;> rfl

/-- To close tasks is to tell of each that it is closed. -/
theorem closeTasks_eq (e : Engine) (s : Step) (ts : List Task) (a : Ambient) :
    closeTasks e s ts a =
      (((e.bus.tell a.deliveries (endedEvents ts s.now)).1.mapError .listener).map fun _ =>
          { s with updated := s.updated ++ (ts.filter Task.isOpen).map fun t => t.ended s.now },
        { a with deliveries := (e.bus.tell a.deliveries (endedEvents ts s.now)).2 }) := by
  unfold endedEvents
  induction ts generalizing s a with
  | nil => simp [Bus.tell, Except.mapError, Except.map, closeTasks, pure, ExceptT.pure, ExceptT.mk,
      StateT.pure]
  | cons t ts ih =>
    unfold closeTasks
    by_cases hopen : t.isOpen = true
    · rw [List.filter_cons_of_pos hopen, List.map_cons, List.map_cons]
      simp only [if_pos hopen, Bus.tell]
      have hnotify := notify_eq e.bus (.task (.terminated (t.ended s.now))) a
      rcases hb : e.bus.notify a.deliveries (.task (.terminated (t.ended s.now))) with ⟨m | u, past⟩
      · rw [hb] at hnotify
        exact bind_error hnotify
      · rw [hb] at hnotify
        refine (bind_ok hnotify).trans ?_
        rw [ih]
        simp [Step.update, Task.ended]
    · rw [List.filter_cons_of_neg hopen]
      simp only [if_neg hopen]
      exact ih s a

/-- The step that ends a stored instance and its open tasks is accepted. -/
theorem admits_closing {x : Store} (hs : x.Sound) (state : InstanceState) (now : Instant)
    (hi : x.instance? i.id = some i) :
    x.Admits (closing i (x.tasksOf i.id) state now).commit where
  revision := hs.toKeyed.expects hi rfl rfl
  created _ ht := nomatch ht
  updated t ht := by
    obtain ⟨u, hu, rfl⟩ := List.mem_map.1 ht
    exact ⟨u, (hs.mem_tasksOf.1 (List.mem_filter.1 hu).1).1⟩

/-- The closing events of an active instance go out before anything is written. -/
theorem run_close_eq (e : Engine) (a : Ambient) (ending : Ending) (now : Instant)
    (hi : w.store.instance? i.id = some i) (hactive : i.isActive = true) :
    Action.run w a (close e i.id ending now) =
      match e.bus.tell a.deliveries (w.store.closingEvents i ending now) with
      | (.ok (), past) => Action.run w { a with deliveries := past }
          (discard (commit (closing i (w.store.tasksOf i.id) ending.state now)))
      | (.error m, past) => ((.error (.listener m), { a with deliveries := past }), w) := by
  rcases activeInstance_cases w a i.id with ⟨j, hj, -, hinstance⟩ | ⟨err, hclosed, -⟩
  swap
  · rw [hclosed i hi] at hactive
    cases hactive
  obtain rfl : i = j := Option.some.inj (hi.symm.trans hj)
  have hclose := closeTasks_eq e (.begin i now) (w.store.tasksOf i.id) a
  rw [show (Step.begin i now).now = now from rfl] at hclose
  rw [close, run_bind_ok hinstance, run_bind_ok run_tasks, Store.closingEvents, Bus.tell_append]
  rcases htold : e.bus.tell a.deliveries (endedEvents (w.store.tasksOf i.id) now) with ⟨m | u, past⟩ <;>
    rw [htold] at hclose
  · exact run_bind_error (congrArg (·, w) hclose)
  · have hlift : Action.run w a (liftM (closeTasks e (.begin i now) (w.store.tasksOf i.id)) :
        Action Step) = ((.ok _, { a with deliveries := past }), w) := congrArg (·, w) hclose
    have hnotify := notify_eq e.bus (.instanceRecord (ending.event i.id i.definitionId now))
      { a with deliveries := past }
    rw [run_bind_ok hlift]
    simp only [Bus.tell]
    rcases hb : e.bus.notify past (.instanceRecord (ending.event i.id i.definitionId now)) with
      ⟨m | u, past'⟩
    · rw [hb] at hnotify
      exact run_bind_error (congrArg (·, w) hnotify)
    · rw [hb] at hnotify
      exact run_bind_ok (congrArg (·, w) hnotify)

/-- Nothing is written if somebody refuses to hear of the end. -/
theorem run_close_of_refused {m : String} (hi : w.store.instance? i.id = some i)
    (hactive : i.isActive = true)
    (h : (e.bus.tell a.deliveries (w.store.closingEvents i ending now)).1 = .error m) :
    ∃ a', Action.run w a (close e i.id ending now) = ((.error (.listener m), a'), w) := by
  have hrun := run_close_eq e a ending now hi hactive
  rcases htold : e.bus.tell a.deliveries (w.store.closingEvents i ending now) with ⟨r, past⟩
  rw [htold] at h hrun
  cases h
  exact ⟨_, hrun⟩

/-- An instance is ended if nobody refuses to hear of it. -/
theorem run_close_of_told (hs : w.store.Sound) (hi : w.store.instance? i.id = some i)
    (hactive : i.isActive = true)
    (h : (e.bus.tell a.deliveries (w.store.closingEvents i ending now)).1 = .ok ()) :
    ∃ a' w', Action.run w a (close e i.id ending now) = ((.ok (), a'), w') ∧
      w.store.Committed (closing i (w.store.tasksOf i.id) ending.state now).commit w'.store := by
  have hrun := run_close_eq e a ending now hi hactive
  rcases htold : e.bus.tell a.deliveries (w.store.closingEvents i ending now) with ⟨r, past⟩
  rw [htold] at h hrun
  cases h
  have hadmits := Store.commit_isOk_iff.2 (admits_closing hs ending.state now hi)
  cases hc : w.store.commit (closing i (w.store.tasksOf i.id) ending.state now).commit with
  | error cause =>
    rw [hc] at hadmits
    cases hadmits
  | ok written =>
    have hask := run_ask (w := w) (a := { a with deliveries := past }) (.commit
      (closing i (w.store.tasksOf i.id) ending.state now).commit)
    simp only [World.answer, World.write, hc] at hask
    refine ⟨_, _, hrun.trans (run_discard ((run_bind_ok hask).trans rfl)), Store.commit_ok hc⟩

end Engine

/-! ### Stores -/

/-- An instance that was timed out. -/
def Instance.expired (i : Instance) (now : Instant) : Instance :=
  { i with state := .timeout, joinArrivals := ∅, updatedAt := now, revision := i.revision + 1 }

/-- A store in which these instances were timed out along with their open tasks, and nothing else. -/
structure Store.Expired (x : Store) (now : Instant) (is : List Instance) (y : Store) : Prop where
  definitions : y.definitions = x.definitions
  orders : ∀ owner, y.order owner = x.order owner
  closed : ∀ i ∈ is, y.instance? i.id = some (i.expired now)
  others : ∀ id, (∀ i ∈ is, i.id ≠ id) → y.instance? id = x.instance? id
  ended : ∀ i ∈ is, ∀ id t, x.task? id = some t → t.instanceId = i.id → t.isOpen = true →
    y.task? id = some (t.ended now)
  left : ∀ id, (∀ i ∈ is, ∀ t, x.task? id = some t → t.isOpen = true → t.instanceId ≠ i.id) →
    y.task? id = x.task? id

namespace Store

variable {x y z : Store} {now : Instant} {is js : List Instance} {i : Instance}

theorem Expired.refl (x : Store) (now : Instant) : x.Expired now [] x :=
  ⟨rfl, fun _ => rfl, (fun _ hi => nomatch hi), fun _ _ => rfl, (fun _ hi => nomatch hi), fun _ _ => rfl⟩

/-- The ends of some instances, and then those of others. -/
theorem Expired.append (h : x.Expired now is y) (h' : y.Expired now js z)
    (hne : ∀ i ∈ is, ∀ j ∈ js, j.id ≠ i.id) : x.Expired now (is ++ js) z where
  definitions := h'.definitions.trans h.definitions
  orders owner := (h'.orders owner).trans (h.orders owner)
  closed i hi := by
    rcases List.mem_append.1 hi with hi | hi
    · rw [h'.others _ (hne i hi)]
      exact h.closed i hi
    · exact h'.closed i hi
  others id hid := by
    rw [h'.others id fun j hj => hid j (List.mem_append_right _ hj)]
    exact h.others id fun i hi => hid i (List.mem_append_left _ hi)
  ended i hi id t ht howner hopen := by
    rcases List.mem_append.1 hi with hi | hi
    · -- a task that was closed is no open task of another instance
      have hended := h.ended i hi id t ht howner hopen
      rw [h'.left id fun k hk u hu hopen' => ?_, hended]
      rw [hended] at hu
      rw [← Option.some.inj hu] at hopen'
      cases hopen'
    · have hkept : y.task? id = x.task? id := h.left id fun k hk u hu _ => by
        rw [ht] at hu
        rw [← Option.some.inj hu, howner]
        exact hne k hk i hi
      exact h'.ended i hi id t (hkept.trans ht) howner hopen
  left id hid := by
    have hkept : y.task? id = x.task? id :=
      h.left id fun i hi => hid i (List.mem_append_left _ hi)
    rw [h'.left id fun j hj t ht => hid j (List.mem_append_right _ hj) t (hkept ▸ ht), hkept]

/-- The step that ends an instance for its deadline times it out. -/
theorem expired_of_committed (hs : x.Sound)
    (h : x.Committed (closing i (x.tasksOf i.id) .timeout now).commit y) : x.Expired now [i] y := by
  have hupdated : ∀ {u}, u ∈ (closing i (x.tasksOf i.id) .timeout now).commit.updated ↔
      ∃ t, x.task? t.id = some t ∧ t.instanceId = i.id ∧ t.isOpen = true ∧ t.ended now = u := by
    intro u
    change u ∈ ((x.tasksOf i.id).filter Task.isOpen).map (fun t => t.ended now) ↔ _
    simp only [List.mem_map, List.mem_filter, hs.mem_tasksOf, and_assoc]
  refine ⟨h.definitions, fun owner => ?_, List.forall_mem_singleton.2 ?_, fun id hid => ?_,
    List.forall_mem_singleton.2 fun id t ht howner hopen => ?_, fun id hid => ?_⟩
  · rw [h.listing]
    split
    · exact List.append_nil _
    · rfl
  · rw [h.record]
    exact if_pos rfl
  · rw [h.record]
    exact if_neg fun heq => hid i List.mem_cons_self heq.symm
  · have hid : t.id = id := hs.tasks ht
    rcases h.tasks id with ⟨u, hu, huid, hsome⟩ | ⟨hne, -⟩
    · obtain ⟨v, hv, -, -, rfl⟩ := hupdated.1 hu
      obtain rfl : v = t := by
        rw [show v.id = id from huid, ht] at hv
        exact (Option.some.inj hv).symm
      exact hsome
    · exact absurd hid (hne (t.ended now) (hupdated.2 ⟨t, hid ▸ ht, howner, hopen, rfl⟩))
  · rcases h.tasks id with ⟨u, hu, huid, -⟩ | ⟨-, ⟨u, hu, -⟩ | ⟨-, hsame⟩⟩
    · obtain ⟨t, ht, howner, hopen, rfl⟩ := hupdated.1 hu
      exact absurd howner (hid i List.mem_cons_self t (huid ▸ ht) hopen)
    · cases hu
    · exact hsame

end Store

end Workflow
