import Workflow.Proofs.History

/-!
Why operations fail. An opening is refused for what is looked up (`opening_refusal`), and a walk halts
at a node that is missing, lacks a handler or a decision, or whose handler or listeners fail
(`move_halt`). Neither is ever told as a token that found no way out (`Unwritten.not_routing`).
-/
namespace Workflow

open Time (Instant)
open Engine Engine.Action Engine.Attempt

/-- The node that is next for a token. -/
def Engine.Token.node : Token → String
  | enter n => n
  | leave n => n

namespace Engine

variable {e : Engine} {d : Definition} {n : Node} {s : Step} {w w' : World} {a a' : Ambient}
  {err : EngineError}

/-! ### Walks -/

/-- Why the next move of a walk fails. -/
inductive Halt (e : Engine) (d : Definition) (x : Walk) : EngineError → Prop where
  | exhausted : Halt e d x (.execution (.tooManyVisits x.step.record.id e.config.maxVisits))
  | lost {t queue} (hq : x.queue = t :: queue) (hn : d.node? t.node = none) :
    Halt e d x (.configuration (.unknownNode d.id t.node))
  | lacksFlow {id queue n name cause} (hq : x.queue = .enter id :: queue)
    (hn : d.node? id = some n) (hname : n.handler = some name)
    (h : e.registry.flowHandler name = .error cause) : Halt e d x (.configuration cause)
  | lacksTask {id queue n assignees handler reminder cause} (hq : x.queue = .enter id :: queue)
    (hn : d.node? id = some n) (hk : n.kind = .task assignees handler reminder)
    (h : e.registry.taskHandler handler = .error cause) : Halt e d x (.configuration cause)
  | undecided {id queue n f} (hq : x.queue = .leave id :: queue) (hn : d.node? id = some n)
    (h : (route e.evaluator n x.step.record.vars).1 = .error f) :
    Halt e d x (.configuration (.guard f))
  | handler (node message : String) : Halt e d x (.handler node message)
  | unheard (m : String) : Halt e d x (.listener m)

theorem of_mapError_eq_error {α ε ε' : Type} {x : Except ε α} {f : ε → ε'} {c : ε'}
    (h : x.mapError f = .error c) : ∃ c', x = .error c' ∧ c = f c' := by
  cases x with
  | ok v => cases h
  | error c' => exact ⟨c', rfl, (Except.error.inj h).symm⟩

theorem notify_error {b : Bus} {ev : Event} (h : notify b ev a = (.error err, a')) :
    ∃ m, err = .listener m := by
  obtain ⟨-, hok | ⟨m, hm⟩⟩ := notify_cases h
  · cases hok
  · exact ⟨m, Except.error.inj hm⟩

theorem handle_error {α : Type} {node : String} {f : Nat → Supply → Except String α × Supply}
    (h : handle node f a = (.error err, a')) : ∃ m, err = .handler node m := by
  obtain ⟨m, -, hm⟩ := of_mapError_eq_error (handle_cases h).2.symm
  exact ⟨m, hm⟩

/-- Why entering a node fails, once the node is found. -/
inductive EntryFault (e : Engine) (n : Node) : EngineError → Prop where
  | lacksFlow {name cause} (hname : n.handler = some name)
    (h : e.registry.flowHandler name = .error cause) : EntryFault e n (.configuration cause)
  | lacksTask {assignees handler reminder cause} (hk : n.kind = .task assignees handler reminder)
    (h : e.registry.taskHandler handler = .error cause) : EntryFault e n (.configuration cause)
  | handler (node message : String) : EntryFault e n (.handler node message)
  | unheard (m : String) : EntryFault e n (.listener m)

theorem createTasks_error {ts : List Task} (h : createTasks e n s ts a = (.error err, a')) :
    EntryFault e n err := by
  induction ts generalizing s a with
  | nil => cases h
  | cons t ts ih =>
    unfold createTasks at h
    by_cases hown : t.instanceId ≠ s.record.id ∨ t.node ≠ n.id
    · simp only [if_pos hown] at h
      cases h
      exact .handler _ _
    · simp only [if_neg hown] at h
      rw [bind_ok (remark_eq _)] at h
      rcases bind_cases h with ⟨err', hfail, herr⟩ | ⟨u, a₁, -, h⟩
      · cases herr
        obtain ⟨m, rfl⟩ := notify_error hfail
        exact .unheard m
      · exact ih h

theorem runFlowHandler_error (h : runFlowHandler e d n s a = (.error err, a')) :
    EntryFault e n err := by
  unfold runFlowHandler at h
  cases hname : n.handler with
  | none =>
    rw [hname] at h
    cases h
  | some name =>
    rw [hname] at h
    rcases bind_cases h with ⟨err', hflow, herr⟩ | ⟨f, a₁, -, hrun⟩
    · cases herr
      rw [configured_eq, Prod.mk.injEq] at hflow
      obtain ⟨cause, hcause, rfl⟩ := of_mapError_eq_error hflow.1
      exact .lacksFlow hname hcause
    · rcases bind_cases hrun with ⟨err', hhandle, herr⟩ | ⟨vars, a₂, -, hend⟩
      · cases herr
        obtain ⟨m, rfl⟩ := handle_error hhandle
        exact .handler _ m
      · cases hend

theorem enterTask_error {handler : Option String} {assignees : List String}
    {reminder : Option ReminderParam} (hk : n.kind = .task assignees handler reminder)
    (h : enterTask e d n handler s a = (.error err, a')) : EntryFault e n err := by
  rcases bind_cases h with ⟨err', hhandler, herr⟩ | ⟨f, a₁, -, h⟩
  · cases herr
    rw [configured_eq, Prod.mk.injEq] at hhandler
    obtain ⟨cause, hcause, rfl⟩ := of_mapError_eq_error hhandler.1
    exact .lacksTask hk hcause
  rcases bind_cases h with ⟨err', hhandle, herr⟩ | ⟨ts, a₂, -, h⟩
  · cases herr
    obtain ⟨m, rfl⟩ := handle_error hhandle
    exact .handler _ m
  cases ts with
  | nil => cases h
  | cons t ts =>
    simp only [List.isEmpty_cons, Bool.false_eq_true, if_false] at h
    rcases bind_cases h with ⟨err', hcreate, herr⟩ | ⟨s₁, a₃, -, hend⟩
    · cases herr
      exact createTasks_error hcreate
    · cases hend

theorem enter_error (h : enter e d n s a = (.error err, a')) : EntryFault e n err := by
  unfold enter at h
  rw [bind_ok (remark_eq _)] at h
  rcases bind_cases h with ⟨err', hfail, herr⟩ | ⟨s₁, a₁, -, h⟩
  · cases herr
    exact runFlowHandler_error hfail
  cases hk : n.kind with
  | start =>
    rw [hk] at h
    cases h
  | condition =>
    rw [hk] at h
    cases h
  | stop =>
    rw [hk] at h
    cases h
  | join declared =>
    rw [hk] at h
    change enterJoin d n declared s₁ a₁ = _ at h
    unfold enterJoin at h
    simp only at h
    rw [bind_ok (remark_eq _)] at h
    split at h <;> cases h
  | task assignees handler reminder =>
    rw [hk] at h
    exact enterTask_error hk h

theorem node_error {id : String} (h : node d id a = (.error err, a')) :
    d.node? id = none ∧ err = .configuration (.unknownNode d.id id) := by
  rw [node_eq] at h
  cases hn : d.node? id <;> rw [hn] at h <;> cases h
  exact ⟨rfl, rfl⟩

/-- Why a move fails. -/
theorem move_halt {x : Walk} (h : move e d x a = (.error err, a')) : Halt e d x err := by
  obtain ⟨entered, queue, s⟩ := x
  rcases queue with _ | ⟨id | id, queue⟩
  · simp only [move] at h
    cases hs : starvedJoin? d s.record <;> rw [hs] at h <;> cases h
  · simp only [move] at h
    split at h
    · rcases bind_cases h with ⟨err', hnode, herr⟩ | ⟨n, a₁, hnode, hrest⟩
      · cases herr
        obtain ⟨hn, rfl⟩ := node_error hnode
        exact .lost (t := .enter id) rfl hn
      · obtain ⟨hn, rfl⟩ := node_ok hnode
        rcases bind_cases hrest with ⟨err', henter, herr⟩ | ⟨⟨s', more⟩, a₂, -, hend⟩
        · cases herr
          cases enter_error henter with
          | lacksFlow hname hflow => exact .lacksFlow rfl hn hname hflow
          | lacksTask hk htask => exact .lacksTask rfl hn hk htask
          | handler node m => exact .handler node m
          | unheard m => exact .unheard m
        · cases hend
    · cases h
      exact .exhausted
  · simp only [move] at h
    rcases bind_cases h with ⟨err', hnode, herr⟩ | ⟨n, a₁, hnode, hrest⟩
    · cases herr
      obtain ⟨hn, rfl⟩ := node_error hnode
      exact .lost (t := .leave id) rfl hn
    · obtain ⟨hn, rfl⟩ := node_ok hnode
      rcases bind_cases hrest with ⟨err', htargets, herr⟩ | ⟨targets, a₂, -, hend⟩
      · cases herr
        obtain ⟨f, hroute, rfl⟩ := of_mapError_eq_error (decided_cases htargets).2.symm
        exact .undecided rfl hn hroute
      · split at hend <;> cases hend

/-- A walk that fails has come, by moves, to one that fails to make the next. -/
theorem advance_halt {P : Walk → Prop}
    (hmove : ∀ {supply x supply' y}, Move e d supply x supply' y → P x → P y)
    {x : Walk} (hx : P x) (h : advance e d x a = (.error err, a')) :
    ∃ y, P y ∧ Halt e d y err := by
  induction x, a using advance.induct e d with
  | case1 x a y a₁ hm ih =>
    rw [advance, hm] at h
    exact ih (hmove (move_cases hm) hx) h
  | case2 x a a₁ hm =>
    rw [advance, hm] at h
    cases h
  | case3 x a err' a₁ hm =>
    rw [advance, hm] at h
    cases h
    exact ⟨x, hx, move_halt hm⟩

theorem Halt.not_routing {x : Walk} (h : Halt e d x err) (id : Uuid) (node : String) :
    err ≠ .routing id node := by
  cases h <;> exact fun h => nomatch h

/-! ### Openings -/

theorem failsWith_definition {name : String} : FailsWith (Refusal e w) w a (definition e name) := by
  intro err h
  rcases definition_cases e w a name with ⟨d, a', w', hrun, -⟩ | ⟨err', a', w', hrun, hrefusal⟩ <;>
    rw [hrun] at h <;> cases h
  exact hrefusal

theorem failsWith_startOpening {name : String} {vars : Variables} :
    FailsWith (Refusal e w) w a (startOpening e name vars) := by
  unfold startOpening
  refine failsWith_bind failsWith_definition fun d a₁ w₁ hd => ?_
  have hresolves := (definition_ok hd).1
  split
  · rename_i hs
    exact failsWith_throw (.noStart hresolves hs)
  · exact failsWith_lift_bind (fun _ h => nomatch h) fun _ _ =>
      failsWith_lift_bind (fun _ h => nomatch h) fun _ _ =>
        failsWith_lift_bind (fun _ h => nomatch h) fun _ _ =>
          failsWith_lift_bind (fun _ h => nomatch h) fun _ _ =>
            failsWith_lift_bind (fun _ h => refusal_notify h) fun _ _ => failsWith_pure _

theorem failsWith_completeOpening {id : Uuid} {output : Variables} :
    FailsWith (Refusal e w) w a (completeOpening e id output) := by
  unfold completeOpening
  refine failsWith_bind failsWith_openTask fun t a₁ w₁ ht => ?_
  have hw : w₁ = w := by
    rcases openTask_cases w a id with ⟨t', -, -, hrun⟩ | ⟨err, -, hrun⟩ <;> rw [hrun] at ht <;>
      cases ht
    rfl
  rw [hw]
  refine failsWith_lift_bind (fun _ h => nomatch h) fun _ a₂ =>
    failsWith_lift_bind (fun _ h => nomatch h) fun _ a₃ =>
      failsWith_bind failsWith_activeInstance fun i a₄ w₄ hi => ?_
  have hw' : w₄ = w := by
    rcases activeInstance_cases w a₃ t.instanceId with ⟨i', -, -, hrun⟩ | ⟨err, -, hrun⟩ <;>
      rw [hrun] at hi <;> cases hi
    rfl
  rw [hw']
  refine failsWith_bind failsWith_definition fun d a₅ w₅ _ =>
    failsWith_lift_bind (fun _ h => nomatch h) fun now a₆ =>
      failsWith_lift_bind (fun _ h => nomatch h) fun _ a₇ =>
        failsWith_lift_bind (fun _ h => refusal_notify h) fun _ a₈ =>
          failsWith_bind (fun _ h => nomatch h) fun siblings a₉ w₉ _ => ?_
  simp only
  split
  · exact failsWith_lift_bind (fun _ h => nomatch h) fun _ _ => failsWith_pure _
  · exact failsWith_pure _

theorem failsWith_retryOpening {id : Uuid} : FailsWith (Refusal e w) w a (retryOpening e id) := by
  unfold retryOpening
  refine failsWith_bind failsWith_activeInstance fun i a₁ w₁ hi => ?_
  have hw : w₁ = w := by
    rcases activeInstance_cases w a id with ⟨i', -, -, hrun⟩ | ⟨err, -, hrun⟩ <;>
      rw [hrun] at hi <;> cases hi
    rfl
  rw [hw]
  split
  · exact failsWith_throw (.untimely _)
  · exact failsWith_bind failsWith_definition fun d _ _ _ =>
      failsWith_lift_bind (fun _ h => nomatch h) fun _ _ => failsWith_pure _

theorem Refusal.not_routing (h : Refusal e w err) (id : Uuid) (node : String) :
    err ≠ .routing id node := by
  cases h <;> exact fun h => nomatch h

end Engine

/-- An opening fails for what it looks up only. -/
theorem opening_refusal {e : Engine} {w w' : World} {a a' : Ambient} {r : Request}
    {opening : Action Opening} {err : EngineError} (hr : r.opening? e = some opening)
    (h : Action.run w a opening = ((.error err, a'), w')) : Refusal e w err := by
  cases r with
  | start definitionId vars =>
    cases hr
    exact failsWith_startOpening err (by rw [h])
  | complete taskId output =>
    cases hr
    exact failsWith_completeOpening err (by rw [h])
  | retry id =>
    cases hr
    exact failsWith_retryOpening err (by rw [h])
  | deploy d => cases hr
  | updateVariables id vars => cases hr
  | terminate id => cases hr
  | tick tolerance now => cases hr

theorem Engine.Unwritten.not_routing {e : Engine} {w : World} {a : Ambient} {r : Request}
    {opening : Action Opening} {err : EngineError} (hr : r.opening? e = some opening)
    (h : Unwritten e opening w a err) (id : Uuid) (node : String) : err ≠ .routing id node := by
  cases h with
  | opening h => exact (opening_refusal hr h).not_routing id node
  | @walking o a₁ w₁ err a₂ h hfollow =>
    cases o with
    | stays s => cases hfollow
    | walks d queue s =>
      obtain ⟨y, -, hhalt⟩ := advance_halt (P := fun _ => True) (fun _ _ => trivial) trivial hfollow
      exact hhalt.not_routing id node
  | finishing h => exact (h w).not_routing id node

end Workflow
