import Workflow.Proofs.Descent
import Workflow.Proofs.Events
import Workflow.Proofs.Recovery

/-!
What is told of a step that is written. Whoever asks for it and whatever it does, listeners hear of the
start of the instance, of the tasks that are closed, of those that are created, of the tokens that got
stuck and of the end of the instance, in this order (`Stepped.tells`, `close_tells`).
-/
namespace Workflow

open Time (Instant)
open Engine Engine.Action Engine.Attempt

/-- What is told of a task that was closed. -/
def closedEvent (t : Task) : Event :=
  .task (if t.state = .completed then .completed t else .terminated t)

/-- What is told of an instance that has come to its end. -/
def Instance.endEvent? (i : Instance) : Option InstanceEvent :=
  match i.state with
  | .active => none
  | .complete => some (.completed i.id i.definitionId i.updatedAt)
  | .timeout => some (.timedOut i.id i.definitionId i.updatedAt)
  | .termination => some (.terminated i.id i.definitionId i.updatedAt)

/-- What is told of an instance that is started, if it is. -/
def startEvents (starts : Bool) (i : Instance) : List Event :=
  if starts then [.instanceRecord (.started i.id i.definitionId)] else []

/-- What is told of a step in which tokens got stuck at some nodes. -/
def Commit.events (c : Commit) (starts : Bool) (stuck : List String) : List Event :=
  startEvents starts c.record ++ c.updated.map closedEvent ++
    (createdEvents c.created ++ (failureEvents c.record stuck ++
      (c.record.endEvent?.map Event.instanceRecord).toList))

/-- Whether a request is to start an instance. -/
def Request.starts : Request → Bool
  | start _ _ => true
  | _ => false

namespace Engine

variable {e : Engine} {w w' : World} {a a' : Ambient} {o : Opening}

/-! ### Openings -/

theorem deliveries_of_definition {name : String} {d : Definition}
    (h : Action.run w a (definition e name) = ((.ok d, a'), w')) :
    a'.deliveries = a.deliveries := by
  cases hcopy : cachedCopy? e w name with
  | some copy =>
    rw [run_definition_of_cached hcopy] at h
    cases h
    rfl
  | none =>
    have hrun := run_definition_of_uncached (a := a) hcopy
    cases hd : w.store.definition? name with
    | none =>
      rw [hd] at hrun
      rw [hrun] at h
      cases h
    | some stored =>
      rw [hd] at hrun
      obtain ⟨entries, hrun⟩ := hrun
      rw [h] at hrun
      obtain ⟨⟨-, rfl⟩, -⟩ := Prod.mk.inj hrun |>.imp_left Prod.mk.inj
      rfl

/-- A start tells of the instance. -/
theorem startOpening_tells {name : String} {vars : Variables}
    (h : Action.run w a (startOpening e name vars) = ((.ok o, a'), w')) :
    o.step.updated = [] ∧ e.bus.Tells a.deliveries (startEvents true o.step.record) a'.deliveries := by
  obtain ⟨d, a₁, w₁, hd, h⟩ := of_run_bind_ok h
  have hpast := deliveries_of_definition hd
  cases hs : d.startNode? with
  | none =>
    rw [hs] at h
    cases h
  | some start =>
    rw [hs] at h
    obtain ⟨now, a₂, hnow, h⟩ := of_run_lift_bind_ok h
    obtain ⟨id, a₃, hfresh, h⟩ := of_run_lift_bind_ok h
    obtain ⟨u, a₄, htrace, h⟩ := of_run_lift_bind_ok h
    obtain ⟨u, a₅, hremark, h⟩ := of_run_lift_bind_ok h
    obtain ⟨u, a₆, hnotify, hend⟩ := of_run_lift_bind_ok h
    have htold := notify_tells hnotify
    cases hend
    cases hremark
    cases htrace
    cases hfresh
    cases hnow
    rw [← hpast]
    exact ⟨rfl, htold⟩

/-- A completion tells of the task. -/
theorem completeOpening_tells {id : Uuid} {output : Variables}
    (h : Action.run w a (completeOpening e id output) = ((.ok o, a'), w')) :
    e.bus.Tells a.deliveries (o.step.updated.map closedEvent) a'.deliveries := by
  rcases openTask_cases w a id with ⟨t, -, -, htask⟩ | ⟨err, -, htask⟩
  swap
  · rw [completeOpening, run_bind_error htask] at h
    cases h
  rw [completeOpening, run_bind_ok htask] at h
  obtain ⟨u, a₁, hfirst, h⟩ := of_run_lift_bind_ok h
  obtain ⟨u, a₂, hsecond, h⟩ := of_run_lift_bind_ok h
  cases hfirst
  cases hsecond
  rcases activeInstance_cases w _ t.instanceId with ⟨i, -, -, hinstance⟩ | ⟨err, -, hinstance⟩
  swap
  · rw [run_bind_error hinstance] at h
    cases h
  rw [run_bind_ok hinstance] at h
  obtain ⟨d, a₃, w₁, hd, h⟩ := of_run_bind_ok h
  obtain ⟨now, a₄, hnow, h⟩ := of_run_lift_bind_ok h
  obtain ⟨u, a₅, hremark, h⟩ := of_run_lift_bind_ok h
  obtain ⟨u, a₆, hnotify, h⟩ := of_run_lift_bind_ok h
  have htold := notify_tells hnotify
  have hpast : a₅.deliveries = a.deliveries := by
    have hsame := deliveries_of_definition hd
    cases hremark
    cases hnow
    exact hsame
  rw [hpast] at htold
  rw [run_bind_ok run_tasks] at h
  -- whether the token goes on or not, the one task of the step is the one handed in
  split at h <;> cases h <;> exact htold

/-- A retry tells of nothing before its tokens move. -/
theorem retryOpening_tells {id : Uuid}
    (h : Action.run w a (retryOpening e id) = ((.ok o, a'), w')) :
    o.step.updated = [] ∧ a'.deliveries = a.deliveries := by
  rcases activeInstance_cases w a id with ⟨i, -, -, hinstance⟩ | ⟨err, -, hinstance⟩
  swap
  · rw [retryOpening, run_bind_error hinstance] at h
    cases h
  rw [retryOpening, run_bind_ok hinstance] at h
  cases hf : i.failure with
  | none =>
    rw [hf] at h
    cases h
  | some f =>
    rw [hf] at h
    obtain ⟨d, a₁, w₁, hd, h⟩ := of_run_bind_ok h
    obtain ⟨now, a₂, hnow, h⟩ := of_run_lift_bind_ok h
    have hpast := deliveries_of_definition hd
    cases h
    cases hnow
    rw [Opening.step, Session.pickUp_eq]
    exact ⟨rfl, hpast⟩

theorem opening_tells {r : Request} {opening : Action Opening} (hr : r.opening? e = some opening)
    (h : Action.run w a opening = ((.ok o, a'), w')) :
    e.bus.Tells a.deliveries
      (startEvents r.starts o.step.record ++ o.step.updated.map closedEvent) a'.deliveries := by
  cases r with
  | start name vars =>
    cases hr
    obtain ⟨hnone, htold⟩ := startOpening_tells h
    rw [hnone, List.map_nil, List.append_nil]
    exact htold
  | complete taskId output =>
    cases hr
    exact completeOpening_tells h
  | retry id =>
    cases hr
    obtain ⟨hnone, hpast⟩ := retryOpening_tells h
    rw [hnone, hpast]
    exact .nil _ _
  | deploy d => cases hr
  | updateVariables id vars => cases hr
  | terminate id => cases hr
  | tick tolerance now => cases hr

/-! ### Ends -/

/-- What is told of the end of a step is the end that is written. -/
theorem Step.endEvents_eq {s : Step} (hactive : s.record.isActive = true) :
    s.endEvents = (s.settled.commit.record.endEvent?.map Event.instanceRecord).toList := by
  have hgoing : s.record.state = .active := by simpa [Instance.isActive] using hactive
  unfold Step.endEvents Step.settled
  split
  · rfl
  · simp [Step.commit, Instance.endEvent?, hgoing]

/-- The events of a step that was written, part by part. -/
theorem Step.events_settled {s s' : Step} {starts : Bool} {stuck : List String} (hm : s.Moved s')
    (hactive : s.record.isActive = true) :
    s'.settled.commit.events starts stuck =
      startEvents starts s.record ++ s.updated.map closedEvent ++
        (createdEvents s'.created ++ (failureEvents s'.record stuck ++ s'.endEvents)) := by
  have hstart : startEvents starts s'.settled.commit.record = startEvents starts s.record := by
    unfold startEvents
    rw [← hm.id_eq, ← hm.definitionId_eq, ← s'.id_commit]
    change (if starts then [Event.instanceRecord (.started _ s'.settled.record.definitionId)] else [])
      = _
    rw [s'.record_settled]
  have hfailures : failureEvents s'.settled.commit.record stuck = failureEvents s'.record stuck := by
    unfold failureEvents
    change stuck.map (fun n => Event.instanceRecord (.routingFailed s'.settled.record.id
      s'.settled.record.definitionId n)) = _
    rw [s'.record_settled]
  have hupdated : s'.settled.commit.updated = s.updated := s'.updated_settled.trans hm.updated
  have hcreated : s'.settled.commit.created = s'.created := s'.created_settled
  rw [Commit.events, hstart, hupdated, hcreated, hfailures,
    s'.endEvents_eq (hm.isActive_eq.trans hactive)]

theorem closingEvents_eq {x : Store} {i : Instance} {ending : Ending} {now : Instant} :
    x.closingEvents i ending now =
      (closing i (x.tasksOf i.id) ending.state now).commit.events false [] := by
  have htasks : endedEvents (x.tasksOf i.id) now =
      (((x.tasksOf i.id).filter Task.isOpen).map fun t => t.ended now).map closedEvent := by
    rw [endedEvents, List.map_map]
    rfl
  rw [Store.closingEvents, htasks]
  cases ending <;> rfl

/-- An instance that is ended from outside is told of as it is written. -/
theorem close_tells {id : Uuid} {ending : Ending} {now : Instant} (hk : w.store.Keyed)
    (h : Action.run w a (close e id ending now) = ((.ok (), a'), w')) :
    ∃ i, w.store.instance? id = some i ∧ i.isActive = true ∧
      w.store.Committed (closing i (w.store.tasksOf id) ending.state now).commit w'.store ∧
      e.bus.Tells a.deliveries
        ((closing i (w.store.tasksOf id) ending.state now).commit.events false []) a'.deliveries := by
  rcases close_result h with ⟨⟨err, herr, -⟩, -⟩ | ⟨-, i, hi, hactive, hcommitted⟩
  · cases herr
  have hid : i.id = id := hk.instances hi
  subst hid
  refine ⟨i, hi, hactive, hcommitted, ?_⟩
  have hrun := run_close_eq e a ending now hi hactive
  rcases htold : e.bus.tell a.deliveries (w.store.closingEvents i ending now) with ⟨m | u, past⟩ <;>
    rw [htold, h] at hrun
  · cases hrun
  rcases run_bind_cases hrun.symm with ⟨err, -, herr⟩ | ⟨revision, a₁, w₁, hcommit, hend⟩
  · cases herr
  have hpast := deliveries_of_commit hcommit
  cases hend
  rw [← closingEvents_eq, hpast]
  exact htold

end Engine

namespace Session

variable {e : Engine} {x : Session} {r : Request} {opening : Action Opening}

theorem deliveries_noted (r : Request) (a : Ambient) : (r.noted a).deliveries = a.deliveries := by
  cases r <;> rfl

/-- The end of a step that was written, as the request that it was written for tells it. -/
theorem Stepped.finishes (hr : r.opening? e = some opening)
    (st : Stepped e x r opening (x.serve e r)) :
    ∃ a' w', Action.run st.world st.after (finish e st.step) = ((x.result e r, a'), w') ∧
      (x.serve e r).ambient.deliveries = a'.deliveries := by
  rcases hfinish : Action.run st.world st.after (finish e st.step) with ⟨⟨report, a'⟩, w'⟩
  have hlift : Action.run st.world st.before (liftM (Engine.follow e st.opens) : Action Step) =
      ((.ok st.step, st.after), st.world) := congrArg (·, st.world) st.follow
  have hcarried : Action.run x.world (r.noted x.ambient) (carryOut e opening) =
      ((report.map fun _ => st.step, a'), w') := by
    rw [carryOut, run_bind_ok st.run, run_bind_ok hlift]
    exact run_bind_pure (fun _ => st.step) hfinish
  obtain ⟨entries, hperform⟩ := run_perform_notes hr hcarried
  refine ⟨a', w', ?_, by rw [serve_eq hperform]⟩
  rw [result, hperform]
  cases report <;> rfl

/-- What is told of a step that was written for a request. -/
theorem Stepped.tells (hr : r.opening? e = some opening)
    (st : Stepped e x r opening (x.serve e r)) (hc : x.Commits e r) :
    e.bus.Tells x.ambient.deliveries
      (st.step.settled.commit.events r.starts (st.opens.stuck e st.before))
      (x.serve e r).ambient.deliveries := by
  have hopens := st.opens_store hr
  have hopening := opening_tells hr st.run
  rw [deliveries_noted] at hopening
  obtain ⟨ts, hts, hcreated⟩ := follow_tells st.follow
  rw [hopens.created_eq, List.nil_append] at hts
  obtain ⟨a', w', hfinish, hpast⟩ := st.finishes hr
  have hending := finish_tells hfinish hc
  rw [failures_follow st.follow, hopens.failures_eq, List.nil_append] at hending
  rw [Step.events_settled (follow_moved st.follow) hopens.isActive, hpast, hts]
  exact hopening.append (hcreated.append hending)

end Session

end Workflow
