import Workflow.Proofs.Runs
import Workflow.Scheduler

/-!
Which calls the operations make, and that they draw ids in their order. What is asked of the calls is
left open, so that the same lemmas serve every question about calls.
-/
namespace Workflow

open Time (Instant)
open Engine Engine.Action Engine.Attempt

/-! ### Attempts -/

/-- Task handlers that draw ids in their order. -/
def Registry.Draws (r : Registry) : Prop :=
  ∀ name h, r.taskHandler name = .ok h → ∀ earlier x (s : Supply), s.Grows (h earlier x s).2

namespace Engine

section Regular

variable {e : Engine} {d : Definition} {n : Node} {s : Step}

theorem regular_validate : Regular (validate e d) := by
  unfold validate
  refine regular_bind (regular_configured _) fun _ => regular_bind ?_ fun _ => regular_configured _
  generalize unreachableNodes d = ns
  induction ns with
  | nil => exact regular_pure _
  | cons n ns ih =>
    rw [List.forIn_cons]
    -- to warn of a node leaves the supply alone
    exact fun a => ih { a with trace := .remark (.unreachableNode d.id n.id) :: a.trace }

theorem regular_runFlowHandler : Regular (runFlowHandler e d n s) := by
  unfold runFlowHandler
  split
  · exact regular_pure s
  · exact regular_bind (regular_configured _) fun h =>
      regular_bind (regular_handle fun _ s => .refl s) fun _ => regular_pure _

theorem regular_createTasks (ts : List Task) : Regular (createTasks e n s ts) := by
  induction ts generalizing s with
  | nil => exact regular_pure s
  | cons t ts ih =>
    unfold createTasks
    have hrest : Regular (do
        remark (.taskCreated s.record.id n.id t.id)
        notify e.bus (.task (.created t))
        createTasks e n (s.create t) ts) :=
      regular_bind (regular_remark _) fun _ => regular_bind (regular_notify _ _) fun _ => ih
    by_cases hown : t.instanceId ≠ s.record.id ∨ t.node ≠ n.id
    · simp only [if_pos hown]
      exact regular_throw fun _ h => nomatch h
    · simp only [if_neg hown]
      exact hrest

theorem regular_enterTask (hr : e.registry.Draws) (handler : Option String) :
    Regular (enterTask e d n handler s) := by
  intro a
  unfold enterTask
  cases hh : e.registry.taskHandler handler with
  | error f => exact ⟨.refl _, fun _ h => nomatch h⟩
  | ok h =>
    refine regular_bind (x := handle n.id fun earlier => h earlier (execution d n s))
      (regular_handle fun m s' => hr handler h hh m _ s') (fun ts => ?_) a
    split
    · exact regular_bind (regular_remark _) fun _ => regular_pure _
    · exact regular_bind (regular_createTasks _) fun _ => regular_pure _

theorem regular_enter (hr : e.registry.Draws) : Regular (enter e d n s) := by
  unfold enter
  refine regular_bind (regular_remark _) fun _ => regular_bind regular_runFlowHandler fun s => ?_
  split
  · exact regular_pure _
  · exact regular_pure _
  · exact regular_enterTask hr _
  · unfold enterJoin
    refine regular_bind (regular_remark _) fun _ => ?_
    split <;> exact regular_pure _
  · exact regular_bind (regular_remark _) fun _ => regular_pure _

theorem regular_node (id : String) : Regular (node d id) := by
  unfold node
  cases d.node? id with
  | some n => exact regular_pure n
  | none => exact regular_throw fun _ h => nomatch h

theorem regular_move (hr : e.registry.Draws) (x : Walk) : Regular (move e d x) := by
  obtain ⟨entered, queue, s⟩ := x
  rcases queue with _ | ⟨id | id, queue⟩
  · simp only [move]
    cases starvedJoin? d s.record with
    | none => exact regular_pure _
    | some join => exact regular_bind (regular_remark _) fun _ => regular_pure _
  · simp only [move]
    split
    · exact regular_bind (regular_node id) fun n =>
        regular_bind (regular_enter hr) fun _ => regular_pure _
    · exact regular_throw (by rintro _ ⟨⟩)
  · simp only [move]
    refine regular_bind (regular_node id) fun n => regular_bind (regular_decided _) fun targets => ?_
    split
    · exact regular_bind (regular_remark _) fun _ => regular_pure _
    · exact regular_pure _

theorem regular_advance (hr : e.registry.Draws) (x : Walk) : Regular (advance e d x) := by
  intro a
  induction x, a using advance.induct e d with
  | case1 x a y a' h ih =>
    have hmove := regular_move (d := d) hr x a
    rw [advance, h]
    rw [h] at hmove
    exact ⟨hmove.1.trans ih.1, ih.2⟩
  | case2 x a a' h =>
    have hmove := regular_move (d := d) hr x a
    rw [advance, h]
    rw [h] at hmove
    exact ⟨hmove.1, fun _ he => nomatch he⟩
  | case3 x a err a' h =>
    have hmove := regular_move (d := d) hr x a
    rw [advance, h]
    rw [h] at hmove
    exact ⟨hmove.1, fun cause he => hmove.2 cause (congrArg Except.error (Except.error.inj he))⟩

theorem regular_follow (hr : e.registry.Draws) (o : Opening) : Regular (follow e o) := by
  cases o with
  | stays s => exact regular_pure s
  | walks d queue s => exact regular_advance hr _

theorem regular_notifyFailures (i : Instance) (ns : List String) : Regular (notifyFailures e i ns) := by
  induction ns with
  | nil => exact regular_pure _
  | cons n ns ih => exact regular_bind (regular_notify _ _) fun _ => ih

theorem regular_settle : Regular (settle e s) := by
  unfold settle
  split
  · exact regular_bind (regular_remark _) fun _ =>
      regular_bind (regular_notify _ _) fun _ => regular_pure _
  · exact regular_pure s

theorem regular_closeTasks (ts : List Task) : Regular (closeTasks e s ts) := by
  induction ts generalizing s with
  | nil => exact regular_pure s
  | cons t ts ih =>
    unfold closeTasks
    split
    · exact regular_bind (regular_notify _ _) fun _ => ih
    · exact ih

end Regular

end Engine

/-! ### Operations -/

/-- A call that changes nothing. -/
def Call.isRead : Call → Bool
  | loadDefinition _ | loadInstance _ | listActive | loadTask _ | listTasks _ | lookUp _ => true
  | _ => false

theorem World.answer_of_isRead {c : Call} (w : World) (h : c.isRead = true) :
    (w.answer c).2 = w := by
  cases c <;> first | rfl | cases h

/-- A condition on calls that holds of reading, and of keeping a definition in the cache once it was
loaded, if definitions are to be there. -/
structure Allows (e : Engine) (W : World → Prop) (p : Call → Prop) : Prop where
  reads : ∀ c, c.isRead = true → p c
  keeps : e.config.cacheDefinitions = true → ∀ {w n d}, W w → w.store.definition? n = some d →
    p (.remember (definitionKey n) d.toValue)

/-- A condition that holds of all the other calls as well, but for those of a deployment. -/
structure Permits (e : Engine) (W : World → Prop) (p : Call → Prop) : Prop extends
    Allows e W p where
  commits : ∀ c, p (.commit c)
  saves : ∀ i, p (.saveInstance i)
  marks : ∀ i source occurrence v, p (.remember (Scheduler.reminderKey i source occurrence) v)
  acquires : p .acquire
  releases : p .release

namespace Engine

variable {W : World → Prop} {p : Call → Prop} {e : Engine} {id : Uuid}

section Reading

variable (hp : Allows e W p)
include hp

omit hp in
theorem obeys_keepDefinition {name : String} {d : Definition}
    (hr : e.config.cacheDefinitions = true → p (.remember (definitionKey name) d.toValue)) :
    Obeys W p (keepDefinition e name d) := by
  unfold keepDefinition
  split
  · rename_i hcaches
    exact obeys_ask (hr hcaches)
  · exact obeys_pure _

theorem obeys_cachedDefinition {name : String} : Obeys W p (cachedDefinition e name) := by
  unfold cachedDefinition
  split
  · exact obeys_bind (obeys_ask (hp.reads _ rfl)) fun _ => obeys_pure _
  · exact obeys_pure _

theorem obeys_definition {name : String} : Obeys W p (definition e name) := by
  unfold definition
  refine obeys_bind (obeys_cachedDefinition hp) fun cached => ?_
  cases cached with
  | some d => exact obeys_pure d
  | none =>
    -- what is kept in the cache is what this world has answered
    refine obeys_ask_bind (hp.reads _ rfl) fun w hw => ?_
    refine obeys_accepted_bind fun found hfound => ?_
    cases found with
    | none => exact obeys_throw _
    | some d =>
      have hd : w.store.definition? name = some d := Except.ok.inj hfound
      exact obeys_bind (obeys_lift regular_validate) fun _ =>
        obeys_bind (obeys_keepDefinition fun hcaches => hp.keeps hcaches hw hd) fun _ => obeys_pure d

theorem obeys_activeInstance : Obeys W p (activeInstance id) := by
  unfold activeInstance findInstance
  refine obeys_bind (obeys_bind (obeys_ask (hp.reads _ rfl)) fun _ => obeys_bind (obeys_accepted _)
    fun found => ?_) fun i => ?_
  · cases found with
    | some i => exact obeys_pure i
    | none => exact obeys_throw _
  · split
    · exact obeys_throw _
    · exact obeys_pure i

theorem obeys_tasks : Obeys W p (tasks id) :=
  obeys_bind (obeys_ask (hp.reads _ rfl)) fun _ => obeys_accepted _

theorem obeys_openTasks : Obeys W p (openTasks id) :=
  obeys_bind (obeys_tasks hp) fun _ => obeys_pure _

theorem obeys_openTask : Obeys W p (openTask id) := by
  unfold openTask
  refine obeys_bind (obeys_ask (hp.reads _ rfl)) fun _ => obeys_bind (obeys_accepted _)
    fun found => ?_
  cases found with
  | none => exact obeys_throw _
  | some t =>
    simp only
    split
    · exact obeys_pure t
    · exact obeys_throw _

theorem obeys_startOpening {name : String} {vars : Variables} :
    Obeys W p (startOpening e name vars) := by
  unfold startOpening
  refine obeys_bind (obeys_definition hp) fun d => ?_
  split
  · exact obeys_throw _
  · exact obeys_bind (obeys_lift regular_now) fun _ => obeys_bind (obeys_lift regular_fresh) fun _ =>
      obeys_bind (obeys_lift (regular_trace _)) fun _ =>
        obeys_bind (obeys_lift (regular_remark _)) fun _ =>
          obeys_bind (obeys_lift (regular_notify _ _)) fun _ => obeys_pure _

theorem obeys_completeOpening {output : Variables} : Obeys W p (completeOpening e id output) := by
  unfold completeOpening
  refine obeys_bind (obeys_openTask hp) fun t => obeys_bind (obeys_lift (regular_trace _)) fun _ =>
    obeys_bind (obeys_lift (regular_trace _)) fun _ => obeys_bind (obeys_activeInstance hp) fun i =>
      obeys_bind (obeys_definition hp) fun d => obeys_bind (obeys_lift regular_now) fun now =>
        obeys_bind (obeys_lift (regular_remark _)) fun _ =>
          obeys_bind (obeys_lift (regular_notify _ _)) fun _ =>
            obeys_bind (obeys_tasks hp) fun siblings => ?_
  simp only
  split
  · exact obeys_bind (obeys_lift (regular_remark _)) fun _ => obeys_pure _
  · exact obeys_pure _

theorem obeys_retryOpening : Obeys W p (retryOpening e id) := by
  unfold retryOpening
  refine obeys_bind (obeys_activeInstance hp) fun i => ?_
  split
  · exact obeys_throw _
  · exact obeys_bind (obeys_definition hp) fun d => obeys_bind (obeys_lift regular_now) fun _ =>
      obeys_pure _

end Reading

section Writing

theorem obeys_commit {s : Step} (hc : p (.commit s.commit)) : Obeys W p (commit s) := by
  unfold commit
  exact obeys_bind (obeys_ask hc) fun _ => obeys_bind (obeys_accepted _) fun _ =>
    obeys_bind (obeys_lift (regular_remark _)) fun _ => obeys_pure _

theorem obeys_finish {s : Step} (hc : ∀ c, p (.commit c)) : Obeys W p (finish e s) := by
  unfold finish
  refine obeys_bind (obeys_lift (regular_notifyFailures _ _)) fun _ =>
    obeys_bind (obeys_lift regular_settle) fun s => obeys_bind (obeys_commit (hc _)) fun _ =>
      obeys_bind (obeys_lift (regular_remark _)) fun _ => ?_
  split
  · exact obeys_throw _
  · exact obeys_pure _

theorem obeys_carryOut {opening : Action Opening} (hr : e.registry.Draws)
    (ho : Obeys W p opening) (hc : ∀ c, p (.commit c)) : Obeys W p (carryOut e opening) :=
  obeys_bind ho fun _ => obeys_bind (obeys_lift (regular_follow hr _)) fun _ =>
    obeys_bind (obeys_finish hc) fun _ => obeys_pure _

theorem obeys_close {ending : Ending} {now : Instant} (hp : Allows e W p)
    (hc : ∀ c, p (.commit c)) : Obeys W p (close e id ending now) := by
  unfold close
  refine obeys_bind (obeys_activeInstance hp) fun i => obeys_bind (obeys_tasks hp) fun ts =>
    obeys_bind (obeys_lift (regular_closeTasks _)) fun s =>
      obeys_bind (obeys_lift (regular_notify _ _)) fun _ => ?_
  exact obeys_discard (obeys_commit (hc _))

theorem obeys_updateVariables {vars : Variables} (hp : Allows e W p)
    (hs : ∀ i, p (.saveInstance i)) : Obeys W p (updateVariables id vars) := by
  unfold updateVariables
  refine obeys_bind (obeys_activeInstance hp) fun i => obeys_bind (obeys_lift regular_now) fun now =>
    ?_
  exact obeys_bind (obeys_ask (hs _)) fun _ => obeys_discard (obeys_accepted _)

theorem obeys_deploy {d : Definition} (hs : p (.saveDefinition d))
    (hr : p (.remember (definitionKey d.id) d.toValue)) : Obeys W p (deploy e d) := by
  unfold deploy
  exact obeys_bind (obeys_lift regular_validate) fun _ => obeys_bind (obeys_ask hs) fun _ =>
    obeys_bind (obeys_accepted _) fun _ => obeys_bind (obeys_keepDefinition fun _ => hr) fun _ =>
      obeys_lift (regular_remark _)

end Writing

end Engine

/-! ### Ticks -/

namespace Scheduler

variable {W : World → Prop} {p : Call → Prop} {s : Scheduler} {now : Instant}
  (hp : Allows s.engine W p)
  (hm : ∀ i source occurrence v, p (.remember (reminderKey i source occurrence) v))
  (hc : ∀ c, p (.commit c))

include hp hm

theorem obeys_send (i : Instance) (source : Source) (occurrence : Instant) :
    Obeys W p (send s i now source occurrence) := by
  unfold send
  refine obeys_bind (obeys_ask (hp.reads _ rfl)) fun mark => ?_
  cases mark with
  | some _ => exact obeys_pure _
  | none =>
    exact obeys_bind (obeys_openTasks hp) fun _ => obeys_bind (obeys_lift (regular_notify _ _))
      fun _ => obeys_bind (obeys_ask (hm _ _ _ _)) fun _ => obeys_pure _

theorem obeys_remind (i : Instance) (sent : Nat) (sources : List Source) :
    Obeys W p (remind s i now sent sources) := by
  induction sources generalizing sent with
  | nil => exact obeys_pure _
  | cons source rest ih =>
    unfold remind
    refine obeys_bind (obeys_lift (regular_configured _)) fun rule => ?_
    split
    · exact obeys_pure _
    · exact ih sent
    · refine obeys_bind (obeys_send hp hm i source _) fun told => ?_
      split
      · exact ih _
      · exact ih _

include hc

theorem obeys_visit (i : Instance) : Obeys W p (visit s i now) := by
  unfold visit
  split
  · exact obeys_bind (obeys_close hp hc) fun _ => obeys_pure _
  · exact obeys_bind (obeys_definition hp) fun d => obeys_remind hp hm i 0 _

theorem obeys_visitAll (r : TickReport) (is : List Instance) :
    Obeys W p (visitAll s now r is) := by
  induction is generalizing r with
  | nil => exact obeys_pure _
  | cons i is ih =>
    unfold visitAll
    refine obeys_bind (obeys_outcome (obeys_visit hp hm hc i)) fun v => ?_
    split
    · exact obeys_pure _
    · exact ih _

theorem obeys_pass : Obeys W p (s.pass now) :=
  obeys_bind (obeys_ask (hp.reads _ rfl)) fun _ => obeys_bind (obeys_accepted _)
    fun is => obeys_visitAll hp hm hc _ is

theorem obeys_tick (ha : p .acquire) (hl : p .release) : Obeys W p (s.tick now) := by
  unfold tick
  refine obeys_bind (obeys_ask ha) fun taken => ?_
  split
  · exact obeys_bind (obeys_outcome (obeys_pass hp hm hc)) fun r =>
      obeys_bind (obeys_ask hl) fun _ => obeys_resume r
  · exact obeys_pure _

end Scheduler

end Workflow
