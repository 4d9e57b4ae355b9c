import Workflow.Proofs.Calls
import Workflow.Proofs.Traversal

/-!
What operations do to the world and to an engine's notes, whatever it is: a relation between before and
after that holds of every single call, reading, remark and event (`Routine`) holds of every operation.
Reminders are left out: neither their events nor their marks, nor the lock of the ticks, occur elsewhere.
-/
namespace Workflow

open Time (Instant)
open Engine Engine.Action Engine.Attempt

/-- A call that operations make: it marks no reminder and leaves the lock alone. -/
def Call.IsRoutine : Call → Prop
  | remember k _ => ∃ n, k = definitionKey n
  | acquire | release => False
  | _ => True

/-- A relation that holds of all that operations do step by step. -/
structure Routine (R : World × Ambient → World × Ambient → Prop) : Prop where
  refl : ∀ x, R x x
  trans : ∀ {x y z}, R x y → R y z → R x z
  supply : ∀ w a s, R (w, a) (w, { a with supply := s })
  handled : ∀ w a n, R (w, a) (w, { a with handled := n })
  asked : ∀ w a exprs, R (w, a) (w, { a with asked := exprs })
  trace : ∀ w a entries, R (w, a) (w, { a with trace := entries })
  delivers : ∀ w a listener ev, ev.kind ≠ .reminder →
    R (w, a) (w, { a with deliveries := ⟨listener, ev⟩ :: a.deliveries })
  answers : ∀ w a c, c.IsRoutine → R (w, a) ((w.answer c).2, a)

/-- Whether a relation holds of what an attempt notes down, in every world. -/
def Engine.Attempt.Keeps {α : Type} (R : World × Ambient → World × Ambient → Prop) (x : Attempt α) :
    Prop :=
  ∀ w a, R (w, a) (w, (x a).2)

/-- Whether a relation holds of what an action does. -/
def Engine.Action.Keeps {α : Type} (R : World × Ambient → World × Ambient → Prop) (x : Action α) :
    Prop :=
  ∀ w a, R (w, a) ((Action.run w a x).2, (Action.run w a x).1.2)

namespace Routine

variable {R : World × Ambient → World × Ambient → Prop} (hR : Routine R) {α β : Type}
include hR

/-! ### Attempts -/

section Attempts

variable {e : Engine} {d : Definition} {n : Node} {s : Step} {x : Attempt α} {f : α → Attempt β}

theorem pure (v : α) : Attempt.Keeps R (Pure.pure v : Attempt α) := fun w a => hR.refl (w, a)

theorem throw (err : EngineError) : Attempt.Keeps R (MonadExcept.throw err : Attempt α) :=
  fun w a => hR.refl (w, a)

theorem bind (hx : Attempt.Keeps R x) (hf : ∀ v, Attempt.Keeps R (f v)) :
    Attempt.Keeps R (x >>= f) := by
  intro w a
  have hfirst := hx w a
  rcases h : (x >>= f) a with ⟨r, a'⟩
  rcases bind_cases h with ⟨err, hfail, -⟩ | ⟨v, a₁, hv, h⟩
  · rwa [hfail] at hfirst
  · have hrest := hf v w a₁
    rw [hv] at hfirst
    rw [h] at hrest
    exact hR.trans hfirst hrest

theorem entry (t : TraceEntry) : Attempt.Keeps R (Attempt.trace t) := fun w a => hR.trace w a _

theorem remark (r : Remark) : Attempt.Keeps R (Attempt.remark r) := hR.entry _

theorem now : Attempt.Keeps R Attempt.now := fun w a => hR.supply w a _

theorem fresh : Attempt.Keeps R Attempt.fresh := fun w a => hR.supply w a _

theorem configured (x : Except ConfigurationError α) : Attempt.Keeps R (Attempt.configured x) := by
  cases x with
  | ok v => exact hR.pure v
  | error err => exact hR.throw _

theorem deliver {ev : Event} (hev : ev.kind ≠ .reminder) (w : World) (a : Ambient) (k : Nat)
    (ls : List Listener) :
    R (w, a) (w, { a with deliveries := (Bus.deliver ev a.deliveries k ls).2 }) := by
  induction ls generalizing a k with
  | nil => exact hR.refl _
  | cons l ls ih =>
    have hone := hR.delivers w a k ev hev
    unfold Bus.deliver
    by_cases hears : l.hears ev.kind = true
    · rw [if_pos hears]
      cases l.respond (heardBy k a.deliveries) ev with
      | ok u => exact hR.trans hone (ih { a with deliveries := ⟨k, ev⟩ :: a.deliveries } (k + 1))
      | error m => exact hone
    · rw [if_neg hears]
      exact ih a (k + 1)

theorem notify {ev : Event} (hev : ev.kind ≠ .reminder) (b : Bus) :
    Attempt.Keeps R (Attempt.notify b ev) := by
  intro w a
  rcases h : Attempt.notify b ev a with ⟨r, a'⟩
  rw [(notify_cases h).1]
  exact hR.deliver hev w a 0 b.listeners

theorem decided (answer : Except Guard.Fault α × List String) :
    Attempt.Keeps R (Attempt.decided answer) := by
  rcases answer with ⟨_ | _, asked⟩ <;> exact fun w a => hR.asked w a _

theorem handle {node : String} {run : Nat → Supply → Except String α × Supply} :
    Attempt.Keeps R (Attempt.handle node run) := by
  intro w a
  have hboth : ∀ supply, R (w, a) (w, { a with supply, handled := a.handled + 1 }) := fun supply =>
    hR.trans (hR.supply w a supply) (hR.handled w { a with supply } _)
  rw [Attempt.handle, bind_ok get_eq]
  rcases run a.handled a.supply with ⟨_ | _, supply⟩ <;> exact hboth supply

theorem validate : Attempt.Keeps R (validate e d) := by
  unfold Engine.validate
  refine hR.bind (hR.configured _) fun _ => hR.bind ?_ fun _ => hR.configured _
  generalize unreachableNodes d = ns
  induction ns with
  | nil => exact hR.pure _
  | cons n ns ih =>
    rw [List.forIn_cons]
    refine fun w a => hR.trans (hR.trace w a (.remark (.unreachableNode d.id n.id) :: a.trace)) ?_
    exact ih w { a with trace := .remark (.unreachableNode d.id n.id) :: a.trace }

theorem runFlowHandler : Attempt.Keeps R (runFlowHandler e d n s) := by
  unfold Engine.runFlowHandler
  split
  · exact hR.pure s
  · exact hR.bind (hR.configured _) fun h => hR.bind hR.handle fun _ => hR.pure _

theorem createTasks (ts : List Task) : Attempt.Keeps R (createTasks e n s ts) := by
  induction ts generalizing s with
  | nil => exact hR.pure s
  | cons t ts ih =>
    unfold Engine.createTasks
    by_cases hown : t.instanceId ≠ s.record.id ∨ t.node ≠ n.id
    · simp only [if_pos hown]
      exact hR.throw _
    · simp only [if_neg hown]
      exact hR.bind (hR.remark _) fun _ =>
        hR.bind (hR.notify (by rintro ⟨⟩) _) fun _ => ih

theorem enter : Attempt.Keeps R (enter e d n s) := by
  unfold Engine.enter
  refine hR.bind (hR.remark _) fun _ => hR.bind hR.runFlowHandler fun s => ?_
  split
  · exact hR.pure _
  · exact hR.pure _
  · unfold enterTask
    refine hR.bind (hR.configured _) fun h => hR.bind hR.handle fun ts => ?_
    split
    · exact hR.bind (hR.remark _) fun _ => hR.pure _
    · exact hR.bind (hR.createTasks _) fun _ => hR.pure _
  · unfold enterJoin
    refine hR.bind (hR.remark _) fun _ => ?_
    split <;> exact hR.pure _
  · exact hR.bind (hR.remark _) fun _ => hR.pure _

theorem node (id : String) : Attempt.Keeps R (node d id) := by
  unfold Engine.node
  cases d.node? id with
  | some n => exact hR.pure n
  | none => exact hR.throw _

theorem move (x : Walk) : Attempt.Keeps R (move e d x) := by
  obtain ⟨entered, queue, s⟩ := x
  rcases queue with _ | ⟨id | id, queue⟩
  · simp only [Engine.move]
    cases starvedJoin? d s.record with
    | none => exact hR.pure _
    | some join => exact hR.bind (hR.remark _) fun _ => hR.pure _
  · simp only [Engine.move]
    split
    · exact hR.bind (hR.node id) fun n => hR.bind hR.enter fun _ => hR.pure _
    · exact hR.throw _
  · simp only [Engine.move]
    refine hR.bind (hR.node id) fun n => hR.bind (hR.decided _) fun targets => ?_
    split
    · exact hR.bind (hR.remark _) fun _ => hR.pure _
    · exact hR.pure _

theorem advance (x : Walk) : Attempt.Keeps R (advance e d x) := by
  intro w a
  induction x, a using Engine.advance.induct e d with
  | case1 x a y a' h ih =>
    have hmove := hR.move (e := e) (d := d) x w a
    rw [Engine.advance, h]
    rw [h] at hmove
    exact hR.trans hmove ih
  | case2 x a a' h =>
    have hmove := hR.move (e := e) (d := d) x w a
    rw [Engine.advance, h]
    rwa [h] at hmove
  | case3 x a err a' h =>
    have hmove := hR.move (e := e) (d := d) x w a
    rw [Engine.advance, h]
    rwa [h] at hmove

theorem follow (o : Opening) : Attempt.Keeps R (follow e o) := by
  cases o with
  | stays s => exact hR.pure s
  | walks d queue s => exact hR.advance _

theorem notifyFailures (i : Instance) (ns : List String) :
    Attempt.Keeps R (notifyFailures e i ns) := by
  induction ns with
  | nil => exact hR.pure _
  | cons n ns ih => exact hR.bind (hR.notify (by rintro ⟨⟩) _) fun _ => ih

theorem settle : Attempt.Keeps R (settle e s) := by
  unfold Engine.settle
  split
  · exact hR.bind (hR.remark _) fun _ =>
      hR.bind (hR.notify (by rintro ⟨⟩) _) fun _ => hR.pure _
  · exact hR.pure s

theorem closeTasks (ts : List Task) : Attempt.Keeps R (closeTasks e s ts) := by
  induction ts generalizing s with
  | nil => exact hR.pure s
  | cons t ts ih =>
    unfold Engine.closeTasks
    split
    · exact hR.bind (hR.notify (by rintro ⟨⟩) _) fun _ => ih
    · exact ih

end Attempts

/-! ### Operations -/

section Operations

variable {e : Engine} {d : Definition} {id : Uuid} {s : Step} {x : Action α} {f : α → Action β}

theorem done (v : α) : Action.Keeps R (Pure.pure v : Action α) := fun w a => hR.refl (w, a)

theorem fail (err : EngineError) : Action.Keeps R (MonadExcept.throw err : Action α) :=
  fun w a => hR.refl (w, a)

theorem next (hx : Action.Keeps R x) (hf : ∀ v, Action.Keeps R (f v)) :
    Action.Keeps R (x >>= f) := by
  intro w a
  have hfirst := hx w a
  rcases h : Action.run w a (x >>= f) with ⟨⟨r, a'⟩, w'⟩
  rcases run_bind_cases h with ⟨err, hfail, -⟩ | ⟨v, a₁, w₁, hv, h⟩
  · rwa [hfail] at hfirst
  · have hrest := hf v w₁ a₁
    rw [hv] at hfirst
    rw [h] at hrest
    exact hR.trans hfirst hrest

omit hR in
theorem lift {x : Attempt α} (hx : Attempt.Keeps R x) : Action.Keeps R (liftM x : Action α) := hx

theorem ask {c : Call} (hc : c.IsRoutine) : Action.Keeps R (ask c) := fun w a => hR.answers w a c hc

theorem accepted (x : Except StoreError α) : Action.Keeps R (accepted x) := by
  cases x with
  | ok v => exact hR.done v
  | error err => exact hR.fail _

omit hR in
theorem outcome (hx : Action.Keeps R x) : Action.Keeps R (outcome x) := by
  intro w a
  rw [run_outcome]
  exact hx w a

theorem discard (hx : Action.Keeps R x) : Action.Keeps R (Functor.discard x) :=
  hR.next hx fun _ => hR.done _

theorem within {span : SpanKind} {attributes : List (Attribute × String)}
    (hx : Action.Keeps R x) : Action.Keeps R (within span attributes x) := by
  refine hR.next (lift (hR.entry _)) fun _ => hR.next (outcome hx) fun r =>
    hR.next (lift (hR.entry _)) fun _ => ?_
  cases r with
  | ok v => exact hR.done v
  | error err => exact hR.fail _

theorem keepDefinition {name : String} : Action.Keeps R (keepDefinition e name d) := by
  unfold Engine.keepDefinition
  split
  · exact hR.ask ⟨name, rfl⟩
  · exact hR.done _

theorem definition {name : String} : Action.Keeps R (definition e name) := by
  unfold Engine.definition cachedDefinition
  refine hR.next ?_ fun cached => ?_
  · split
    · exact hR.next (hR.ask trivial) fun _ => hR.done _
    · exact hR.done _
  · cases cached with
    | some d => exact hR.done d
    | none =>
      refine hR.next (hR.ask trivial) fun _ => hR.next (hR.accepted _) fun found => ?_
      cases found with
      | none => exact hR.fail _
      | some d =>
        exact hR.next (lift hR.validate) fun _ => hR.next hR.keepDefinition fun _ => hR.done d

theorem activeInstance : Action.Keeps R (activeInstance id) := by
  unfold Engine.activeInstance findInstance
  refine hR.next (hR.next (hR.ask trivial) fun _ => hR.next (hR.accepted _) fun found => ?_)
    fun i => ?_
  · cases found with
    | some i => exact hR.done i
    | none => exact hR.fail _
  · split
    · exact hR.fail _
    · exact hR.done i

theorem tasks : Action.Keeps R (tasks id) := hR.next (hR.ask trivial) fun _ => hR.accepted _

theorem openTask : Action.Keeps R (openTask id) := by
  unfold Engine.openTask
  refine hR.next (hR.ask trivial) fun _ => hR.next (hR.accepted _) fun found => ?_
  cases found with
  | none => exact hR.fail _
  | some t =>
    simp only
    split
    · exact hR.done t
    · exact hR.fail _

theorem startOpening {name : String} {vars : Variables} :
    Action.Keeps R (startOpening e name vars) := by
  unfold Engine.startOpening
  refine hR.next hR.definition fun d => ?_
  split
  · exact hR.fail _
  · exact hR.next (lift hR.now) fun _ => hR.next (lift hR.fresh) fun _ =>
      hR.next (lift (hR.entry _)) fun _ => hR.next (lift (hR.remark _)) fun _ =>
        hR.next (lift (hR.notify (by rintro ⟨⟩) _)) fun _ => hR.done _

theorem completeOpening {output : Variables} : Action.Keeps R (completeOpening e id output) := by
  unfold Engine.completeOpening
  refine hR.next hR.openTask fun t => hR.next (lift (hR.entry _)) fun _ =>
    hR.next (lift (hR.entry _)) fun _ => hR.next hR.activeInstance fun i =>
      hR.next hR.definition fun d => hR.next (lift hR.now) fun now =>
        hR.next (lift (hR.remark _)) fun _ =>
          hR.next (lift (hR.notify (by rintro ⟨⟩) _)) fun _ =>
            hR.next hR.tasks fun siblings => ?_
  simp only
  split
  · exact hR.next (lift (hR.remark _)) fun _ => hR.done _
  · exact hR.done _

theorem retryOpening : Action.Keeps R (retryOpening e id) := by
  unfold Engine.retryOpening
  refine hR.next hR.activeInstance fun i => ?_
  split
  · exact hR.fail _
  · exact hR.next hR.definition fun d => hR.next (lift hR.now) fun _ => hR.done _

theorem commit : Action.Keeps R (commit s) :=
  hR.next (hR.ask trivial) fun _ => hR.next (hR.accepted _) fun _ =>
    hR.next (lift (hR.remark _)) fun _ => hR.done _

theorem finish : Action.Keeps R (finish e s) := by
  unfold Engine.finish
  refine hR.next (lift (hR.notifyFailures _ _)) fun _ => hR.next (lift hR.settle) fun s =>
    hR.next hR.commit fun _ => hR.next (lift (hR.remark _)) fun _ => ?_
  split
  · exact hR.fail _
  · exact hR.done _

theorem carryOut {opening : Action Opening} (ho : Action.Keeps R opening) :
    Action.Keeps R (carryOut e opening) :=
  hR.next ho fun _ => hR.next (lift (hR.follow _)) fun _ => hR.next hR.finish fun _ => hR.done _

theorem close {ending : Ending} {now : Instant} : Action.Keeps R (close e id ending now) := by
  unfold Engine.close
  refine hR.next hR.activeInstance fun i => hR.next hR.tasks fun ts =>
    hR.next (lift (hR.closeTasks _)) fun s => hR.next (lift (hR.notify ?_ _)) fun _ =>
      hR.discard hR.commit
  cases ending <;> rintro ⟨⟩

theorem updateVariables {vars : Variables} : Action.Keeps R (updateVariables id vars) := by
  unfold Engine.updateVariables
  exact hR.next hR.activeInstance fun i => hR.next (lift hR.now) fun now =>
    hR.next (hR.ask trivial) fun _ => hR.discard (hR.accepted _)

theorem deploy : Action.Keeps R (deploy e d) :=
  hR.next (lift hR.validate) fun _ => hR.next (hR.ask trivial) fun _ =>
    hR.next (hR.accepted _) fun _ => hR.next hR.keepDefinition fun _ => lift (hR.remark _)

end Operations

end Routine

end Workflow
