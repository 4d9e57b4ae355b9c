import Workflow.Proofs.Closing
import Workflow.Proofs.Failures
import Workflow.Proofs.Leftovers

/-!
What listeners are told, part by part of what an engine does. When nobody refuses to hear of something,
the events of a part go out after those of the part before it (`Bus.Tells.append`); a walk tells of the
tasks that it creates (`advance_tells`), and the end of a step of the tokens that got stuck and of the
instance if that is complete (`finish_tells`).
-/
namespace Workflow

open Time (Instant)
open Engine Engine.Action Engine.Attempt

/-- Whether these events go out one after another, with these deliveries before and after them, and
nobody refuses any. -/
def Bus.Tells (b : Bus) (past : List Delivery) (evs : List Event) (past' : List Delivery) : Prop :=
  b.tell past evs = (.ok (), past')

namespace Bus.Tells

variable {b : Bus} {past past' past'' : List Delivery} {evs evs' : List Event}

theorem nil (b : Bus) (past : List Delivery) : b.Tells past [] past := rfl

theorem append (h : b.Tells past evs past') (h' : b.Tells past' evs' past'') :
    b.Tells past (evs ++ evs') past'' := by
  rw [Tells, Bus.tell_append, show b.tell past evs = _ from h]
  exact h'

end Bus.Tells

/-- What is told of tasks that are created. -/
def createdEvents (ts : List Task) : List Event := ts.map fun t => .task (.created t)

/-- What is told of tokens that got stuck at these nodes. -/
def failureEvents (i : Instance) (ns : List String) : List Event :=
  ns.map fun n => .instanceRecord (.routingFailed i.id i.definitionId n)

/-- What is told of an instance that is complete once its tokens have come to rest. -/
def Engine.Step.endEvents (s : Step) : List Event :=
  if s.record.isActive && s.record.currentNodes.isEmpty then
    [.instanceRecord (.completed s.record.id s.record.definitionId s.now)]
  else []

namespace Engine

variable {e : Engine} {d : Definition} {n : Node} {s s' : Step} {w w' : World} {a a' : Ambient}

theorem notify_tells {b : Bus} {ev : Event} (h : notify b ev a = (.ok (), a')) :
    b.Tells a.deliveries [ev] a'.deliveries := by
  rw [notify_eq] at h
  rcases hb : b.notify a.deliveries ev with ⟨m | u, past⟩ <;> rw [hb] at h <;> cases h
  rw [Bus.Tells, Bus.tell, hb]
  rfl

/-! ### Walks -/

theorem deliveries_of_runFlowHandler (h : runFlowHandler e d n s a = (.ok s', a')) :
    a'.deliveries = a.deliveries := by
  unfold runFlowHandler at h
  cases hn : n.handler with
  | none =>
    rw [hn] at h
    cases h
    rfl
  | some name =>
    rw [hn] at h
    obtain ⟨f, a₁, hf, h⟩ := of_bind_ok h
    obtain ⟨vars, a₂, hv, h⟩ := of_bind_ok h
    rw [configured_eq, Prod.mk.injEq] at hf
    obtain ⟨-, rfl⟩ := hf
    obtain ⟨rfl, -⟩ := handle_cases hv
    cases h
    rfl

theorem createTasks_tells {ts : List Task} (h : createTasks e n s ts a = (.ok s', a')) :
    e.bus.Tells a.deliveries (createdEvents ts) a'.deliveries := by
  induction ts generalizing s a with
  | nil =>
    cases h
    exact .nil _ _
  | cons t ts ih =>
    unfold createTasks at h
    by_cases hown : t.instanceId ≠ s.record.id ∨ t.node ≠ n.id
    · simp only [if_pos hown] at h
      cases h
    · simp only [if_neg hown] at h
      rw [bind_ok (remark_eq _)] at h
      obtain ⟨u, a₁, hnotify, h⟩ := of_bind_ok h
      exact (notify_tells hnotify).append (ih h)

/-- A token that enters a node makes that its tasks are told of as they are created. -/
theorem enter_tells {more : List Token} (h : enter e d n s a = (.ok (s', more), a')) :
    ∃ ts, s'.created = s.created ++ ts ∧
      e.bus.Tells a.deliveries (createdEvents ts) a'.deliveries := by
  unfold enter at h
  rw [bind_ok (remark_eq _)] at h
  obtain ⟨s₁, a₁, hflow, h⟩ := of_bind_ok h
  have hpast := deliveries_of_runFlowHandler hflow
  change a₁.deliveries = a.deliveries at hpast
  obtain ⟨⟨vars, rfl⟩, -⟩ := runFlowHandler_cases hflow
  rw [← hpast]
  -- nothing is told of where no task is created
  have hquiet : ∀ {s₂ : Step}, s₂.created = s.created → ∃ ts, s₂.created = s.created ++ ts ∧
      e.bus.Tells a₁.deliveries (createdEvents ts) a₁.deliveries :=
    fun hsame => ⟨[], by simp [hsame], .nil _ _⟩
  cases hk : n.kind with
  | start =>
    rw [hk] at h
    cases h
    exact hquiet rfl
  | condition =>
    rw [hk] at h
    cases h
    exact hquiet rfl
  | stop =>
    rw [hk] at h
    simp only at h
    rw [bind_ok (remark_eq _)] at h
    cases h
    exact hquiet rfl
  | join declared =>
    rw [hk] at h
    simp only [enterJoin] at h
    rw [bind_ok (remark_eq _)] at h
    split at h <;> cases h <;> exact hquiet rfl
  | task assignees handler reminder =>
    rw [hk] at h
    obtain ⟨f, a₂, hf, h⟩ := of_bind_ok h
    obtain ⟨ts, a₃, hts, h⟩ := of_bind_ok h
    rw [configured_eq, Prod.mk.injEq] at hf
    obtain ⟨-, rfl⟩ := hf
    obtain ⟨rfl, -⟩ := handle_cases hts
    cases ts with
    | nil =>
      simp only [List.isEmpty_nil, if_true] at h
      rw [bind_ok (remark_eq _)] at h
      cases h
      exact hquiet rfl
    | cons t ts =>
      simp only [List.isEmpty_cons, Bool.false_eq_true, if_false] at h
      obtain ⟨s₂, a₄, hcreate, h⟩ := of_bind_ok h
      have htold := createTasks_tells hcreate
      obtain ⟨-, rfl, -⟩ := createTasks_cases hcreate
      cases h
      exact ⟨_, rfl, htold⟩

theorem created_leave (n : Node) (targets : List String) (s : Step) :
    (leave n targets s).created = s.created := by
  unfold leave
  split <;> rfl

theorem move_tells {x y : Walk} (h : move e d x a = (.ok (some y), a')) :
    ∃ ts, y.step.created = x.step.created ++ ts ∧
      e.bus.Tells a.deliveries (createdEvents ts) a'.deliveries := by
  obtain ⟨entered, queue, s⟩ := x
  rcases queue with _ | ⟨id | id, queue⟩
  · simp only [move] at h
    cases hs : starvedJoin? d s.record with
    | none =>
      rw [hs] at h
      cases h
    | some join =>
      rw [hs] at h
      cases h
      exact ⟨[], (List.append_nil _).symm, .nil _ _⟩
  · simp only [move] at h
    split at h
    · obtain ⟨n, a₁, hnode, hrest⟩ := of_bind_ok h
      obtain ⟨⟨s', more⟩, a₂, henter, hrest⟩ := of_bind_ok hrest
      obtain ⟨-, rfl⟩ := node_ok hnode
      cases hrest
      exact enter_tells henter
    · cases h
  · simp only [move] at h
    obtain ⟨n, a₁, hnode, hrest⟩ := of_bind_ok h
    obtain ⟨targets, a₂, htargets, hrest⟩ := of_bind_ok hrest
    obtain ⟨-, rfl⟩ := node_ok hnode
    obtain ⟨rfl, -⟩ := decided_cases htargets
    have hsame : (leave n targets s).created = s.created ++ [] := by
      rw [created_leave, List.append_nil]
    split at hrest <;> cases hrest <;> exact ⟨[], hsame, .nil _ _⟩

/-- A walk tells of the tasks that it creates, in their order. -/
theorem advance_tells {x : Walk} (h : advance e d x a = (.ok s', a')) :
    ∃ ts, s'.created = x.step.created ++ ts ∧
      e.bus.Tells a.deliveries (createdEvents ts) a'.deliveries := by
  induction x, a using advance.induct e d with
  | case1 x a y a₁ hm ih =>
    rw [advance, hm] at h
    obtain ⟨ts, hts, htold⟩ := move_tells hm
    obtain ⟨us, hus, htold'⟩ := ih h
    refine ⟨ts ++ us, by rw [hus, hts, List.append_assoc], ?_⟩
    rw [createdEvents, List.map_append]
    exact htold.append htold'
  | case2 x a a₁ hm =>
    rw [advance, hm] at h
    cases h
    obtain ⟨-, -, rfl⟩ := move_none hm
    exact ⟨[], (List.append_nil _).symm, .nil _ _⟩
  | case3 x a err a₁ hm =>
    rw [advance, hm] at h
    cases h

theorem follow_tells {o : Opening} (h : follow e o a = (.ok s', a')) :
    ∃ ts, s'.created = o.step.created ++ ts ∧
      e.bus.Tells a.deliveries (createdEvents ts) a'.deliveries := by
  cases o with
  | stays s =>
    cases h
    exact ⟨[], (List.append_nil _).symm, .nil _ _⟩
  | walks d queue s => exact advance_tells h

/-! ### Tokens that get stuck -/

/-- The node that the next token is to leave and cannot. -/
def Walk.stuck? (e : Engine) (d : Definition) (x : Walk) : Option String :=
  match x.queue with
  | .leave id :: _ => (d.node? id).bind fun n =>
    match (route e.evaluator n x.step.record.vars).1 with
    | .ok [] => some id
    | _ => none
  | _ => none

/-- The nodes at which tokens get stuck while an opening is followed, in order. -/
def Opening.stuck (e : Engine) (a : Ambient) : Opening → List String
  | .stays _ => []
  | .walks d queue s => (trail e d ⟨0, queue, s⟩ a).filterMap (Walk.stuck? e d)

theorem failures_move {x y : Walk} {supply supply' : Supply} (h : Move e d supply x supply' y) :
    y.step.failures = x.step.failures ++ (x.stuck? e d).toList := by
  cases h with
  | @enters id entered queue s n vars s' more _ _ hn hentry =>
    have hsame : s'.failures = s.failures := by cases hentry <;> rfl
    rw [hsame]
    exact (List.append_nil _).symm
  | @leaves id entered queue s n targets _ hn htargets =>
    have hid : n.id = id := by simpa using List.find?_some hn
    simp only [Walk.stuck?, hn, Option.bind_some, htargets]
    cases targets with
    | nil => simp [leave, Step.flag, Step.wait, hid]
    | cons target targets => simp [leave]
  | releases hstarved => exact (List.append_nil _).symm

/-- The failures of a walk are the tokens that got stuck. -/
theorem failures_advance {x : Walk} (h : advance e d x a = (.ok s', a')) :
    s'.failures = x.step.failures ++ (trail e d x a).filterMap (Walk.stuck? e d) := by
  induction x, a using advance.induct e d with
  | case1 x a y a₁ hm ih =>
    rw [advance, hm] at h
    rw [ih h, failures_move (move_cases hm), trail_cons hm, List.filterMap_cons]
    cases x.stuck? e d <;> simp
  | case2 x a a₁ hm =>
    rw [advance, hm] at h
    cases h
    obtain ⟨hqueue, -, -⟩ := move_none hm
    have hnone : x.stuck? e d = none := by rw [Walk.stuck?, hqueue]
    rw [trail_last hm, List.filterMap_cons, hnone]
    exact (List.append_nil _).symm
  | case3 x a err a₁ hm =>
    rw [advance, hm] at h
    cases h

theorem failures_follow {o : Opening} (h : follow e o a = (.ok s', a')) :
    s'.failures = o.step.failures ++ o.stuck e a := by
  cases o with
  | stays s =>
    cases h
    exact (List.append_nil _).symm
  | walks d queue s => exact failures_advance h

/-! ### The end of a step -/

theorem notifyFailures_eq (e : Engine) (i : Instance) (ns : List String) (a : Ambient) :
    notifyFailures e i ns a =
      ((e.bus.tell a.deliveries (failureEvents i ns)).1.mapError .listener,
        { a with deliveries := (e.bus.tell a.deliveries (failureEvents i ns)).2 }) := by
  induction ns generalizing a with
  | nil => rfl
  | cons n ns ih =>
    have hnotify := notify_eq e.bus (.instanceRecord (.routingFailed i.id i.definitionId n)) a
    rw [failureEvents, List.map_cons, Bus.tell]
    rcases hb : e.bus.notify a.deliveries (.instanceRecord (.routingFailed i.id i.definitionId n)) with
      ⟨m | u, past⟩ <;> rw [hb] at hnotify
    · exact bind_error hnotify
    · refine (bind_ok hnotify).trans ?_
      rw [ih]
      rfl

theorem settle_tells (h : settle e s a = (.ok s', a')) :
    e.bus.Tells a.deliveries s.endEvents a'.deliveries := by
  unfold settle at h
  unfold Step.endEvents
  split at h
  · rename_i hdone
    rw [bind_ok (remark_eq _)] at h
    obtain ⟨u, a₁, hnotify, h⟩ := of_bind_ok h
    cases h
    rw [if_pos hdone]
    have htold := notify_tells hnotify
    exact htold
  · rename_i hgoing
    cases h
    rw [if_neg hgoing]
    exact .nil _ _

theorem deliveries_of_commit {r : Except EngineError UInt64}
    (h : Action.run w a (commit s) = ((r, a'), w')) : a'.deliveries = a.deliveries := by
  have hask := run_ask (w := w) (a := a) (.commit s.commit)
  cases hc : w.store.commit s.commit <;> simp only [World.answer, World.write, hc] at hask <;>
    rw [commit, run_bind_ok hask] at h <;> cases h <;> rfl

/-- Before a step is written, everybody is told of the tokens that got stuck, and of the end of the
instance. -/
theorem finish_tells {r : Except EngineError Unit} (h : Action.run w a (finish e s) = ((r, a'), w'))
    (hr : r = .ok () ∨ ∃ id n, r = .error (.routing id n)) :
    e.bus.Tells a.deliveries (failureEvents s.record s.failures ++ s.endEvents) a'.deliveries := by
  -- a part that fails turns the whole step away, as no part fails for want of a way out
  have hnot : ∀ {err}, Refusal e w err → r ≠ .error err := by
    rintro err hrefusal rfl
    rcases hr with hok | ⟨id, n, hrouting⟩
    · cases hok
    · exact hrefusal.not_routing id n (Except.error.inj hrouting)
  rcases run_lift_bind_cases h with ⟨err, hfail, rfl, -⟩ | ⟨u, a₁, hnotify, h⟩
  · exact absurd rfl (hnot (refusal_notifyFailures (by rw [hfail])))
  rcases run_lift_bind_cases h with ⟨err, hfail, rfl, -⟩ | ⟨s₁, a₂, hsettle, h⟩
  · exact absurd rfl (hnot (refusal_settle (by rw [hfail])))
  have hfailures : e.bus.Tells a.deliveries (failureEvents s.record s.failures) a₁.deliveries := by
    rw [notifyFailures_eq] at hnotify
    rcases ht : e.bus.tell a.deliveries (failureEvents s.record s.failures) with ⟨m | u, past⟩ <;>
      rw [ht] at hnotify <;> cases hnotify
    exact ht
  refine hfailures.append ?_
  have hend := settle_tells hsettle
  -- nobody is told of the write itself
  suffices hsame : a'.deliveries = a₂.deliveries by rwa [hsame]
  rcases run_bind_cases h with ⟨err, hcommit, rfl⟩ | ⟨revision, a₃, w₃, hcommit, h⟩
  · rcases commit_result hcommit with ⟨⟨cause, herr⟩, -⟩ | ⟨⟨_, hok⟩, -⟩
    · rw [Except.error.inj herr] at hnot
      exact absurd rfl (hnot (.declined cause))
    · cases hok
  · have hwritten := deliveries_of_commit hcommit
    cases hf : s₁.failures with
    | nil =>
      rw [hf] at h
      cases h
      exact hwritten
    | cons n ns =>
      rw [hf] at h
      cases h
      exact hwritten

end Engine

end Workflow
