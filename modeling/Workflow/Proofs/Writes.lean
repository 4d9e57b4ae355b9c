import Workflow.Proofs.History

/-!
Where the operations on an instance read and write. Each loads the instance before it writes, and its
one write is over the revision that it loaded and comes last (`Script.Loads`); a completion has looked
at its task before (`Script.Checks`).
-/
namespace Workflow

open Time (Instant)
open Engine Engine.Action Engine.Attempt

namespace Script

variable {α β : Type}

instance : LawfulMonad Script := LawfulMonad.mk' Script
  (by
    intro α x
    induction x with
    | done a => rfl
    | call c next ih => exact congrArg (call c) (funext ih))
  (fun _ _ => rfl)
  (by
    intro α β γ x f g
    induction x with
    | done a => rfl
    | call c next ih => exact congrArg (call c) (funext ih))

/-- The only write of a script is over this revision of an instance, and comes last. -/
def WritesOver (id : Uuid) (revision : UInt64) : Script α → Prop
  | done _ => True
  | call c next =>
    match c.written? with
    | some i => i.id = id ∧ i.revision = revision ∧ ∀ w : World, ∃ r, next (w.answer c).1 = done r
    | none => ∀ w : World, (next (w.answer c).1).WritesOver id revision

/-- A script loads an instance first, and then writes over what it has loaded if that is active. -/
def Loads (id : Uuid) (x : Script α) : Prop :=
  ∃ next, x = call (.loadInstance id) next ∧ ∀ r,
    (∃ i, r = .ok (some i) ∧ i.isActive = true ∧ (next r).WritesOver i.id i.revision) ∨
      ∃ v, next r = done v

/-- A script loads a task first, and then goes on to its instance if the task is open. -/
def Checks (id : Uuid) (x : Script α) : Prop :=
  ∃ next, x = call (.loadTask id) next ∧ ∀ r,
    (∃ t, r = .ok (some t) ∧ t.isOpen = true ∧ (next r).Loads t.instanceId) ∨ ∃ v, next r = done v

variable {id : Uuid} {revision : UInt64} {x : Script α} {f : α → Script β}

theorem writesOver_of_silent {q : α → Prop}
    (hx : x.All (fun _ => True) (fun c => c.written? = none) q)
    (hf : ∀ v, q v → (f v).WritesOver id revision) : (x >>= f).WritesOver id revision := by
  induction x with
  | done v => exact hf v hx
  | call c next ih =>
    change WritesOver id revision (call c fun r => next r >>= f)
    rw [WritesOver, hx.1]
    exact fun w => ih _ (hx.2 w trivial)

theorem WritesOver.bind (hx : x.WritesOver id revision) (hf : ∀ v, ∃ r, f v = done r) :
    (x >>= f).WritesOver id revision := by
  induction x with
  | done v =>
    obtain ⟨r, hr⟩ := hf v
    change (f v).WritesOver id revision
    rw [hr]
    trivial
  | call c next ih =>
    change WritesOver id revision (call c fun r => next r >>= f)
    rw [WritesOver] at hx ⊢
    split at hx
    · obtain ⟨hid, hrevision, hlast⟩ := hx
      refine ⟨hid, hrevision, fun w => ?_⟩
      obtain ⟨v, hv⟩ := hlast w
      rw [hv]
      exact hf v
    · exact fun w => ih _ (hx w)

theorem Loads.bind (hx : x.Loads id) (hf : ∀ v, ∃ r, f v = done r) : (x >>= f).Loads id := by
  obtain ⟨next, rfl, hnext⟩ := hx
  refine ⟨fun r => next r >>= f, rfl, fun r => ?_⟩
  rcases hnext r with ⟨i, hr, hactive, hover⟩ | ⟨v, hv⟩
  · exact Or.inl ⟨i, hr, hactive, hover.bind hf⟩
  · have hdone : ∃ u, next r >>= f = done u := hv ▸ hf v
    exact Or.inr hdone

theorem Checks.bind (hx : x.Checks id) (hf : ∀ v, ∃ r, f v = done r) : (x >>= f).Checks id := by
  obtain ⟨next, rfl, hnext⟩ := hx
  refine ⟨fun r => next r >>= f, rfl, fun r => ?_⟩
  rcases hnext r with ⟨t, hr, hopen, hloads⟩ | ⟨v, hv⟩
  · exact Or.inl ⟨t, hr, hopen, hloads.bind hf⟩
  · have hdone : ∃ u, next r >>= f = done u := hv ▸ hf v
    exact Or.inr hdone

end Script

namespace Engine

namespace Action

variable {α β : Type} {id : Uuid} {revision : UInt64}

/-- An action that makes no calls. -/
def Quiet (x : Action α) : Prop := ∀ a, ∃ r, x a = .done r

theorem quiet_pure (v : α) : Quiet (pure v) := fun a => ⟨(.ok v, a), rfl⟩

theorem quiet_throw (err : EngineError) : Quiet (throw err : Action α) :=
  fun a => ⟨(.error err, a), rfl⟩

theorem quiet_lift (x : Attempt α) : Quiet (liftM x : Action α) := fun a => ⟨x a, rfl⟩

theorem quiet_accepted (x : Except StoreError α) : Quiet (accepted x) := by
  cases x with
  | ok v => exact quiet_pure v
  | error err => exact quiet_throw _

theorem quiet_resume (x : Except EngineError α) : Quiet (resume x) := by
  cases x with
  | ok v => exact quiet_pure v
  | error err => exact quiet_throw _

theorem quiet_bind {x : Action α} {f : α → Action β} (hx : Quiet x) (hf : ∀ v, Quiet (f v)) :
    Quiet (x >>= f) := by
  intro a
  obtain ⟨⟨err | v, a'⟩, hr⟩ := hx a
  · exact ⟨(.error err, a'), congrArg (Script.bind · _) hr⟩
  · obtain ⟨r, hv⟩ := hf v a'
    exact ⟨r, (congrArg (Script.bind · _) hr).trans hv⟩

/-- What comes after the calls of an action. -/
theorem Quiet.cont {f : α → Action β} (hf : ∀ v, Quiet (f v))
    (r : Except EngineError α × Ambient) : ∃ u, ExceptT.bindCont f r.1 r.2 = .done u := by
  obtain ⟨err | v, a⟩ := r
  · exact ⟨(.error err, a), rfl⟩
  · exact hf v a

def WritesOver (id : Uuid) (revision : UInt64) (x : Action α) : Prop :=
  ∀ a, (x a).WritesOver id revision

def Loads (id : Uuid) (x : Action α) : Prop := ∀ a, (x a).Loads id

def Checks (id : Uuid) (x : Action α) : Prop := ∀ a, (x a).Checks id

section WritesOver

variable {x : Action α} {f : α → Action β}

theorem writesOver_of_quiet (hx : Quiet x) : WritesOver id revision x := by
  intro a
  obtain ⟨r, hr⟩ := hx a
  rw [hr]
  trivial

theorem writesOver_bind (hx : Obeys (fun _ => True) (fun c => c.written? = none) x)
    (hf : ∀ v, WritesOver id revision (f v)) : WritesOver id revision (x >>= f) := by
  intro a
  refine Script.writesOver_of_silent (hx a) fun r _ => ?_
  obtain ⟨err | v, a'⟩ := r
  · trivial
  · exact hf v a'

theorem WritesOver.bind (hx : WritesOver id revision x) (hf : ∀ v, Quiet (f v)) :
    WritesOver id revision (x >>= f) := fun a => (hx a).bind (Quiet.cont hf)

theorem writesOver_lift_bind {x : Attempt α}
    (hf : ∀ {a v a'}, x a = (.ok v, a') → WritesOver id revision (f v)) :
    WritesOver id revision (liftM x >>= f) := by
  intro a
  change Script.WritesOver id revision (ExceptT.bindCont f (x a).1 (x a).2)
  rcases hx : x a with ⟨err | v, a'⟩
  · trivial
  · exact hf hx a'

theorem writesOver_ask_bind {c : Call} {i : Instance} {f : c.Answer → Action β}
    (hc : c.written? = some i) (hf : ∀ r, Quiet (f r)) :
    WritesOver i.id i.revision (ask c >>= f) := by
  intro a
  change Script.WritesOver i.id i.revision (.call c fun r => f r a)
  rw [Script.WritesOver, hc]
  exact ⟨rfl, rfl, fun w => hf _ a⟩

end WritesOver

section Loads

variable {x : Action α}

theorem loads_activeInstance_bind {f : Instance → Action β}
    (hf : ∀ i, i.isActive = true → WritesOver i.id i.revision (f i)) :
    Loads id (activeInstance id >>= f) := by
  intro a
  refine ⟨_, rfl, fun r => ?_⟩
  rcases r with err | _ | i
  · exact Or.inr ⟨_, rfl⟩
  · exact Or.inr ⟨_, rfl⟩
  · obtain ⟨key, name, version, nodes, vars, state, arrivals, failure, param, deadline, made, changed,
      revision⟩ := i
    cases state with
    | active => exact Or.inl ⟨_, rfl, rfl, hf _ rfl a⟩
    | _ => exact Or.inr ⟨_, rfl⟩

theorem loads_lift_bind {x : Attempt α} {f : α → Action β}
    (hx : ∀ a, ∃ v a', x a = (.ok v, a')) (hf : ∀ v, Loads id (f v)) :
    Loads id (liftM x >>= f) := by
  intro a
  obtain ⟨v, a', hv⟩ := hx a
  change Script.Loads id (ExceptT.bindCont f (x a).1 (x a).2)
  rw [hv]
  exact hf v a'

theorem checks_openTask_bind {f : Task → Action β}
    (hf : ∀ t, t.isOpen = true → Loads t.instanceId (f t)) : Checks id (openTask id >>= f) := by
  intro a
  refine ⟨_, rfl, fun r => ?_⟩
  rcases r with err | _ | t
  · exact Or.inr ⟨_, rfl⟩
  · exact Or.inr ⟨_, rfl⟩
  · obtain ⟨key, owner, node, assignees, state, output, made, done⟩ := t
    cases state with
    | created => exact Or.inl ⟨_, rfl, rfl, hf _ rfl a⟩
    | _ => exact Or.inr ⟨_, rfl⟩

theorem Loads.bind {f : α → Action β} (hx : Loads id x) (hf : ∀ v, Quiet (f v)) :
    Loads id (x >>= f) := fun a => (hx a).bind (Quiet.cont hf)

theorem Checks.bind {f : α → Action β} (hx : Checks id x) (hf : ∀ v, Quiet (f v)) :
    Checks id (x >>= f) := fun a => (hx a).bind (Quiet.cont hf)

theorem Checks.within {span : SpanKind} {attributes : List (Attribute × String)}
    (hx : Checks id x) : Checks id (within span attributes x) := by
  intro a
  have houtcome : Checks id (outcome x) := fun a => (hx a).bind fun r => ⟨_, rfl⟩
  exact houtcome.bind (fun r => quiet_bind (quiet_lift _) fun _ => quiet_resume r)
    { a with trace := .opened span attributes :: a.trace }

end Loads

end Action

/-! ### The operations -/

section Operations

variable {e : Engine} {d : Definition} {id : Uuid} {s : Step} {o : Opening} {a a' : Ambient}

theorem writesOver_commit (s : Step) : WritesOver s.record.id s.record.revision (commit s) :=
  writesOver_ask_bind (i := s.commit.record) rfl fun r => quiet_bind (quiet_accepted r) fun _ =>
    quiet_bind (quiet_lift _) fun _ => quiet_pure _

theorem writesOver_finish (s : Step) : WritesOver s.record.id s.record.revision (finish e s) := by
  unfold finish
  refine writesOver_lift_bind fun _ => writesOver_lift_bind fun hsettle => ?_
  obtain ⟨rfl, -⟩ := settle_ok hsettle
  have hrevision : s.settled.record.revision = s.record.revision := by rw [s.record_settled]
  rw [← hrevision, ← s.id_settled]
  refine (writesOver_commit s.settled).bind fun _ => quiet_bind (quiet_lift _) fun _ => ?_
  cases s.settled.failures with
  | nil => exact quiet_pure _
  | cons n ns => exact quiet_throw _

/-- What an opening leads to is written over the instance that it started from. -/
theorem writesOver_follow (o : Opening) :
    WritesOver o.step.record.id o.step.record.revision (do
      let s ← follow e o
      finish e s
      return s) := by
  refine writesOver_lift_bind fun hfollow => ?_
  have hmoved := follow_moved hfollow
  rw [← hmoved.id_eq, ← hmoved.revision_eq]
  exact (writesOver_finish _).bind fun _ => quiet_pure _

theorem allows_silent (e : Engine) : Allows e (fun _ => True) fun c => c.written? = none where
  reads c hc := by cases c <;> first | rfl | cases hc
  keeps _ _ _ _ _ _ := rfl

theorem checks_complete (taskId : Uuid) (output : Variables) :
    Checks taskId (complete e taskId output) := by
  refine Checks.within (Checks.bind ?_ fun _ => quiet_pure _)
  rw [carryOut, completeOpening, bind_assoc]
  refine checks_openTask_bind fun t _ => ?_
  -- between the look at the task and that at the instance there is room for other operations
  simp only [bind_assoc]
  refine loads_lift_bind (fun _ => ⟨_, _, rfl⟩) fun _ =>
    loads_lift_bind (fun _ => ⟨_, _, rfl⟩) fun _ => loads_activeInstance_bind fun i _ => ?_
  refine writesOver_bind (obeys_definition (allows_silent e)) fun d => writesOver_lift_bind fun _ =>
    writesOver_lift_bind fun _ => writesOver_lift_bind fun _ =>
      writesOver_bind (obeys_tasks (allows_silent e)) fun siblings => ?_
  split
  · simp only [bind_assoc, pure_bind]
    exact writesOver_lift_bind fun _ => writesOver_follow (.stays (completion i t output _))
  · simp only [pure_bind]
    exact writesOver_follow (.walks d _ ((completion i t output _).depart t.node))

theorem loads_retry (id : Uuid) : Loads id (retry e id) := by
  refine Loads.bind ?_ fun _ => quiet_pure _
  rw [carryOut, retryOpening, bind_assoc]
  refine loads_activeInstance_bind fun i _ => ?_
  cases i.failure with
  | none => exact writesOver_of_quiet (quiet_throw _)
  | some f =>
    simp only [bind_assoc, pure_bind]
    refine writesOver_bind (obeys_definition (allows_silent e)) fun d =>
      writesOver_lift_bind fun {_ now _} _ => ?_
    have hfollow := writesOver_follow (e := e) (.walks d (f.nodes.map .leave) (pickUp i f now))
    rw [Opening.step, Session.pickUp_eq] at hfollow
    rw [Session.pickUp_eq]
    exact hfollow

theorem loads_updateVariables (id : Uuid) (vars : Variables) :
    Loads id (updateVariables id vars) :=
  loads_activeInstance_bind fun i _ => writesOver_lift_bind fun {_ now _} _ =>
    writesOver_ask_bind (i := { i with vars := i.vars.union vars, updatedAt := now }) rfl fun r =>
      quiet_bind (quiet_accepted r) fun _ => quiet_pure _

theorem loads_terminate (id : Uuid) : Loads id (terminate e id) := by
  refine loads_lift_bind (fun _ => ⟨_, _, rfl⟩) fun now => ?_
  refine loads_activeInstance_bind fun i _ => ?_
  refine writesOver_bind (obeys_tasks (allows_silent e)) fun ts =>
    writesOver_lift_bind fun {_ s _} hclose => writesOver_lift_bind fun _ => ?_
  have hrecord : s.record = i := by
    rw [closeTasks_ok hclose]
    rfl
  have hcommit := writesOver_commit (s.close Ending.termination.state)
  rw [show (s.close Ending.termination.state).record.id = s.record.id from rfl,
    show (s.close Ending.termination.state).record.revision = s.record.revision from rfl,
    hrecord] at hcommit
  exact hcommit.bind fun _ => quiet_pure _

end Operations

end Engine

end Workflow
