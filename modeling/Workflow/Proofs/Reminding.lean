import Workflow.Proofs.Ledger

/-!
How often reminders are told. A listener that hears of reminders is told of each source of an instance
once for each minute in which the source is due, whatever is served in between. The mark of the
instance's own reminder has a hyphen where that of a node has its id, so that a node with just this id
and the instance have one mark between them.

## Main statements

* `Session.ledger_history`: marks and events are those of what was due, after every history.
* `Session.remindsOnce_iff`: each source is told of once for each minute, unless both the instance and
  a node with a hyphen for its id are due in one minute.
-/
namespace Workflow

open Time (Instant Span)
open Engine Engine.Action Engine.Attempt Scheduler

/-! ### Histories -/

/-- Whether a source in this place of an instance is due at a tick, with an occurrence in this minute:
the instance is active, its deadline is not over, and the source belongs to it or to the definition that
the engine finds for it. -/
def Session.DueAt (e : Engine) (x : Session) (tolerance : Span) (now : Instant) : Dues :=
  fun id node minute => ∃ i d source, x.store.instance? id = some i ∧ i.isActive = true ∧
    isOverdue i now = false ∧
    (Action.run x.world x.ambient (definition e i.definitionId)).1.1 = .ok d ∧
    source ∈ sources d i ∧ source.node = node ∧ source.Due tolerance now minute

/-- Whether a source was due at some tick among these requests. -/
def Session.wasDue (e : Engine) (s : Supply) (rs : List Request) : Dues := fun id node minute =>
  ∃ earlier tolerance now later, rs = earlier ++ .tick tolerance now :: later ∧
    (history e s earlier).DueAt e tolerance now id node minute

namespace Session

variable {e : Engine} {s : Supply} {x : Session} {r : Request} {listener : Nat}

theorem settled_history (rs : List Request) :
    Settled e (history e s rs).store.definitions (history e s rs).world :=
  ⟨rfl, faithful_history rs, mirrored_history rs⟩

theorem mem_activeInstances_iff {store : Store} (hk : store.Keyed) {i : Instance} :
    i ∈ store.activeInstances ↔ store.instance? i.id = some i ∧ i.isActive = true := by
  constructor
  · intro h
    obtain ⟨id, hi⟩ := Store.exists_of_mem_activeInstances h
    rw [Store.activeInstances, List.mem_mergeSort] at h
    exact ⟨by rwa [hk.instances hi], (List.mem_filter.1 h).2⟩
  · rintro ⟨hi, hactive⟩
    rw [Store.activeInstances, List.mem_mergeSort, List.mem_filter]
    obtain ⟨p, hp, hkey⟩ := Dict.mem_of_lookup_isSome (k := i.id) (l := store.instances.entries) (by
      rw [show Dict.lookup i.id store.instances.entries = some i from hi]
      rfl)
    have hvalue := Dict.get?_of_mem hp
    rw [hkey, show store.instances.get? i.id = some i from hi] at hvalue
    exact ⟨List.mem_map.2 ⟨p, hp, (Option.some.inj hvalue).symm⟩, hactive⟩

theorem dueAt_iff (hs : x.store.Keyed) (hx : Settled e x.store.definitions x.world)
    {tolerance : Span} {now : Instant} {id : Uuid} {node : Option String} {minute : Int} :
    x.DueAt e tolerance now id node minute ↔ ∃ i ∈ x.store.activeInstances, id = i.id ∧
      DueIn ⟨e, tolerance⟩ x.store.definitions now i node minute := by
  have hfound : ∀ {i : Instance} {d : Definition},
      (Action.run x.world x.ambient (definition e i.definitionId)).1.1 = .ok d ↔
        e.found x.store.definitions i.definitionId = some d := by
    intro i d
    rw [hx.run_definition]
    cases e.found x.store.definitions i.definitionId with
    | none => exact ⟨(fun h => nomatch h), (fun h => nomatch h)⟩
    | some d' =>
      exact ⟨fun h => congrArg some (Except.ok.inj h), fun h => congrArg _ (Option.some.inj h)⟩
  constructor
  · rintro ⟨i, d, source, hi, hactive, hoverdue, hd, hsource, hnode, hdue⟩
    have hid : i.id = id := hs.instances hi
    exact ⟨i, (mem_activeInstances_iff hs).2 ⟨by rwa [hid], hactive⟩, hid.symm, hoverdue, d,
      hfound.1 hd, source, hsource, hnode, hdue⟩
  · rintro ⟨i, hi, rfl, hoverdue, d, hd, source, hsource, hnode, hdue⟩
    obtain ⟨hi, hactive⟩ := (mem_activeInstances_iff hs).1 hi
    exact ⟨i, d, source, hi, hactive, hoverdue, hfound.2 hd, hsource, hnode, hdue⟩

theorem wasDue_concat {rs : List Request} {id : Uuid} {node : Option String} {minute : Int} :
    wasDue e s (rs ++ [r]) id node minute ↔ wasDue e s rs id node minute ∨
      ∃ tolerance now, r = .tick tolerance now ∧
        (history e s rs).DueAt e tolerance now id node minute := by
  constructor
  · rintro ⟨earlier, tolerance, now, later, hrs, hdue⟩
    rcases List.eq_nil_or_concat later with rfl | ⟨later, r', rfl⟩
    · obtain ⟨rfl, hr⟩ := List.append_inj' hrs rfl
      exact Or.inr ⟨tolerance, now, List.singleton_inj.1 hr, hdue⟩
    · rw [List.concat_eq_append, ← List.cons_append, ← List.append_assoc] at hrs
      obtain ⟨rfl, -⟩ := List.append_inj' hrs rfl
      exact Or.inl ⟨earlier, tolerance, now, later, rfl, hdue⟩
  · rintro (⟨earlier, tolerance, now, later, rfl, hdue⟩ | ⟨tolerance, now, rfl, hdue⟩)
    · exact ⟨earlier, tolerance, now, later ++ [r], by simp, hdue⟩
    · exact ⟨rs, tolerance, now, [], rfl, hdue⟩

theorem wasDue_append {rs later : List Request} {id : Uuid} {node : Option String} {minute : Int}
    (h : wasDue e s rs id node minute) : wasDue e s (rs ++ later) id node minute := by
  obtain ⟨earlier, tolerance, now, rest, rfl, hdue⟩ := h
  exact ⟨earlier, tolerance, now, rest ++ later, by simp, hdue⟩

/-- A request other than a tick is nothing out of the routine. -/
theorem keeps_perform {R : World × Ambient → World × Ambient → Prop} (hR : Routine R)
    (hr : ∀ tolerance now, r ≠ .tick tolerance now) : Action.Keeps R (r.perform e) := by
  cases r with
  | deploy d => exact hR.deploy
  | start name vars =>
    exact hR.discard (hR.within (hR.next (hR.carryOut hR.startOpening) fun _ => hR.done _))
  | complete taskId output => exact hR.within (hR.discard (hR.carryOut hR.completeOpening))
  | updateVariables id vars => exact hR.updateVariables
  | retry id => exact hR.discard (hR.carryOut hR.retryOpening)
  | terminate id => exact hR.next (Routine.lift hR.now) fun _ => hR.close
  | tick tolerance now => exact absurd rfl (hr tolerance now)

/-- Whatever is served, marks and reminders are as they are due, and no lock is held in between. -/
theorem ledger_history (hb : e.bus.Reminds listener) (rs : List Request) :
    Ledger listener (wasDue e s rs) (history e s rs).world (history e s rs).ambient ∧
      (history e s rs).world.lock = .free := by
  induction rs using List.reverseRecOn with
  | nil =>
    have hnone : ∀ id place minute, ¬ (wasDue e s []).At id place minute := by
      rintro id place minute ⟨node, -, earlier, tolerance, now, later, hrs, -⟩
      simp at hrs
    exact ⟨⟨fun i source t => ⟨(fun h => nomatch h), fun h => absurd h (hnone _ _ _)⟩,
      fun id place minute h => absurd h (hnone _ _ _), fun _ _ _ h => nomatch h⟩, rfl⟩
  | append_singleton rs r ih =>
    obtain ⟨hledger, hfree⟩ := ih
    rw [history_concat]
    by_cases htick : ∃ tolerance now, r = .tick tolerance now
    · obtain ⟨tolerance, now, rfl⟩ := htick
      have hs : (history e s rs).store.Sound := sound_history rs
      have htick := hledger.tick (s := ⟨e, tolerance⟩) hb now (settled_history rs)
        (compiling_history rs) hfree
      have hlock : (Action.run (history e s rs).world (history e s rs).ambient
          (Scheduler.tick ⟨e, tolerance⟩ now)).2.lock = .free := lock_run_tick
      rcases hrun : Action.run (history e s rs).world (history e s rs).ambient
        (Scheduler.tick ⟨e, tolerance⟩ now) with ⟨⟨v, a'⟩, w'⟩
      rw [hrun] at htick hlock
      rw [serve_eq (r := .tick tolerance now) (run_discard hrun)]
      refine ⟨htick.congr fun id node minute => ?_, hlock⟩
      rw [wasDue_concat]
      refine or_congr Iff.rfl ((dueAt_iff hs.toKeyed (settled_history rs)).symm.trans ⟨fun h => ?_, ?_⟩)
      · exact ⟨tolerance, now, rfl, h⟩
      · rintro ⟨_, _, hr, h⟩
        cases hr
        exact h
    · have hkept := keeps_perform (e := e) routine_unreminded (fun tolerance now h =>
        htick ⟨tolerance, now, h⟩) (history e s rs).world (history e s rs).ambient
      refine ⟨(hledger.of_unreminded hkept).congr fun id node minute => ?_, hkept.lock.trans hfree⟩
      rw [wasDue_concat]
      refine ⟨Or.inl, ?_⟩
      rintro (h | ⟨tolerance, now, hr, -⟩)
      · exact h
      · exact absurd ⟨tolerance, now, hr⟩ htick

/-- After every part of these requests, a listener was reminded of each source of an instance once for
each minute in which the source was due at a tick by then, and of no other. -/
def RemindsOnce (e : Engine) (s : Supply) (listener : Nat) (rs : List Request) (id : Uuid) : Prop :=
  ∀ earlier later, rs = earlier ++ later → ∀ node minute,
    (wasDue e s earlier id node minute →
      (history e s earlier).ambient.reminders listener id minute (fun node' => node' == node) = 1) ∧
    (¬ wasDue e s earlier id node minute →
      (history e s earlier).ambient.reminders listener id minute (fun node' => node' == node) = 0)

theorem reminders_hyphen (a : Ambient) (id : Uuid) (minute : Int) :
    a.reminders listener id minute (fun node => node.getD "-" == "-") =
      a.reminders listener id minute (fun node => node == none) +
        a.reminders listener id minute (fun node => node == some "-") := by
  unfold Ambient.reminders
  induction a.deliveries with
  | nil => rfl
  | cons d ds ih =>
    rw [List.countP_cons, List.countP_cons, List.countP_cons, ih]
    obtain ⟨l, ev⟩ := d
    cases ev with
    | reminder ev =>
      -- the place of the event is one of the two, or neither
      cases hnode : ev.node with
      | none => simp [Delivery.reminds, hnode]; omega
      | some n => by_cases hn : n = "-" <;> simp [Delivery.reminds, hnode, hn]; omega
    | task ev => simp [Delivery.reminds]
    | instanceRecord ev => simp [Delivery.reminds]

/-- Where no other source of the place was due, the place was told of for this one. -/
theorem reminders_of_only {D : Dues} {w : World} {a : Ambient} {id : Uuid} {node : Option String}
    {minute : Int} (h : Ledger listener D w a)
    (honly : ∀ node' : Option String, node'.getD "-" = node.getD "-" → D id node' minute →
      node' = node) :
    a.reminders listener id minute (fun node' => node' == node) =
      a.reminders listener id minute (fun node' => node'.getD "-" == node.getD "-") := by
  refine List.countP_congr fun d hd => ?_
  obtain ⟨l, ev⟩ := d
  cases ev with
  | reminder ev =>
    simp only [Delivery.reminds, Bool.and_eq_true, beq_iff_eq]
    refine and_congr_right fun hev => ⟨fun hnode => by rw [hnode], fun hplace => ?_⟩
    refine honly ev.node hplace (h.due id ev.node minute (List.countP_pos_iff.2 ⟨_, hd, ?_⟩))
    simp only [Delivery.reminds, hev, Bool.and_eq_true, beq_iff_eq]
    trivial
  | _ => exact Iff.rfl

theorem not_remindsOnce_of_due (hb : e.bus.Reminds listener) {rs : List Request} {id : Uuid}
    {minute : Int} (hown : wasDue e s rs id none minute)
    (hnode : wasDue e s rs id (some "-") minute) : ¬ RemindsOnce e s listener rs id := by
  intro honce
  -- both have one mark, and so one event between them
  have hboth := (ledger_history (s := s) hb rs).1.once id "-" minute ⟨none, rfl, hown⟩
  rw [reminders_hyphen, (honce rs [] (List.append_nil rs).symm none minute).1 hown,
    (honce rs [] (List.append_nil rs).symm (some "-") minute).1 hnode] at hboth
  cases hboth

/-- Each source of an instance is told of once for each minute in which it is due, unless both the
instance itself and a node with a hyphen for its id are due in one minute. -/
theorem remindsOnce_iff (hb : e.bus.Reminds listener) {rs : List Request} {id : Uuid} :
    RemindsOnce e s listener rs id ↔
      ¬ ∃ minute, wasDue e s rs id none minute ∧ wasDue e s rs id (some "-") minute := by
  constructor
  · rintro honce ⟨minute, hown, hnode⟩
    exact not_remindsOnce_of_due hb hown hnode honce
  · rintro hapart earlier later rfl node minute
    have hledger := (ledger_history (e := e) (s := s) hb earlier).1
    refine ⟨fun hdue => ?_,
      fun hdue => Nat.eq_zero_of_not_pos fun hpos => hdue (hledger.due _ _ _ hpos)⟩
    rw [reminders_of_only hledger fun node' hplace hdue' => ?_]
    · exact hledger.once id _ minute ⟨node, rfl, hdue⟩
    · cases node with
      | none =>
        cases node' with
        | none => rfl
        | some n =>
          obtain rfl : n = "-" := hplace
          exact absurd ⟨minute, wasDue_append hdue, wasDue_append hdue'⟩ hapart
      | some n =>
        cases node' with
        | none =>
          obtain rfl : "-" = n := hplace
          exact absurd ⟨minute, wasDue_append hdue', wasDue_append hdue⟩ hapart
        | some n' => exact congrArg some hplace

/-- The session after a definition was deployed that passes the checks. -/
def deployedTo (x : Session) (e : Engine) (d : Definition) : Session :=
  ⟨(Action.run (x.world.answer (.saveDefinition d)).2 x.ambient (keepDefinition e d.id d)).2,
    { x.ambient with
      trace := .remark (.deployed d.id d.version d.nodes.length) :: x.ambient.trace }⟩

theorem serve_deploy {d : Definition} (hvalid : d.validate = .ok ()) (hreach : unreachableNodes d = [])
    (huse : checkUse e d = .ok ()) : x.serve e (.deploy d) = deployedTo x e d := by
  have hchecked : Action.run x.world x.ambient (liftM (Engine.validate e d) : Action Unit) =
      ((.ok (), x.ambient), x.world) := by
    rw [run_lift]
    unfold Engine.validate
    rw [hvalid, hreach, huse]
    rfl
  have hdeployed : Action.run x.world x.ambient (deploy e d) =
      ((.ok (), (deployedTo x e d).ambient), (deployedTo x e d).world) := by
    unfold deploy deployedTo
    change Action.run _ _ (liftM (Engine.validate e d) >>= _) = _
    rw [run_bind_ok hchecked]
    unfold keepDefinition
    split <;> rfl
  exact serve_eq hdeployed

/-! ### A reminder every minute -/

section EveryMinute

/-- An engine with a listener that hears of everything. -/
def heardEngine : Engine := { plainEngine with bus := ⟨[⟨fun _ => true, fun _ _ => .ok ()⟩]⟩ }

theorem reminds_heardEngine : heardEngine.bus.Reminds 0 where
  hears := ⟨_, rfl, rfl⟩
  accepts l hl _ heard ev := by
    obtain rfl := List.mem_singleton.1 hl
    rfl

/-- Every minute, on every day and at every time. -/
def everyMinute : ReminderParam := ⟨"0 * * * * *", [], none⟩

theorem due_everyMinute (node : Option String) :
    Source.Due (Span.ofSeconds 60) ⟨60, 0⟩ ⟨node, everyMinute⟩ 1 := by
  have hdue : ((Reminder.Rule.compile everyMinute).toOption.bind fun rule =>
      (rule.dueOccurrence ⟨60, 0⟩ (Span.ofSeconds 60)).toOption) = some (some ⟨60, 0⟩) := by
    decide +kernel
  unfold Source.Due
  cases hrule : Reminder.Rule.compile everyMinute with
  | error err =>
    rw [hrule] at hdue
    cases hdue
  | ok rule =>
    rw [hrule] at hdue
    refine ⟨rule, ⟨60, 0⟩, rfl, ?_, by decide⟩
    change (rule.dueOccurrence ⟨60, 0⟩ (Span.ofSeconds 60)).toOption = _ at hdue
    cases hfound : rule.dueOccurrence ⟨60, 0⟩ (Span.ofSeconds 60) with
    | error err =>
      rw [hfound] at hdue
      cases hdue
    | ok found =>
      rw [hfound] at hdue
      exact congrArg Except.ok (Option.some.inj hdue)

theorem checkReminder_everyMinute (place : Option String) :
    Definition.checkReminder place (some everyMinute) = .ok () := by
  obtain ⟨rule, -, hrule, -⟩ := due_everyMinute none
  unfold Definition.checkReminder
  simp only [hrule]

/-- One task between start and end, and a reminder each for the instance and for the task's node. -/
def reminding (node : String) : Definition :=
  { id := "reminding", version := 1, name := none, description := none, reminder := some everyMinute
    timeoutSeconds := none
    nodes := [
      ⟨"start", none, .start, none, [.plain node]⟩,
      ⟨node, none, .task ["ann"] none (some everyMinute), none, [.plain "end"]⟩,
      ⟨"end", none, .stop, none, []⟩] }

theorem checkUse_reminding (node : String) : checkUse heardEngine (reminding node) = .ok () := by
  have hreminders : (reminding node).validateReminders = .ok () := by
    have hnone (place : Option String) : Definition.checkReminder place none = .ok () := rfl
    simp only [Definition.validateReminders, reminding, Definition.checkNodeReminders,
      Node.reminder, checkReminder_everyMinute, hnone]
    rfl
  unfold checkUse
  rw [hreminders]
  rfl

/-- An instance is started of a definition that was just deployed. -/
def awaiting (node : String) : List Request := [.deploy (reminding node), .start "reminding" ∅]

theorem history_awaiting {node : String} (hvalid : (reminding node).validate = .ok ())
    (hreach : unreachableNodes (reminding node) = []) :
    history heardEngine countedIds (awaiting node) =
      (deployedTo (opened countedIds) heardEngine (reminding node)).serve heardEngine
        (.start "reminding" ∅) :=
  congrArg (fun x => serve heardEngine x (.start "reminding" ∅))
    (serve_deploy hvalid hreach (checkUse_reminding node))

/-- What the first tick, a minute later, finds. -/
structure Awaited (node : String) : Prop where
  stored : ((history heardEngine countedIds (awaiting node)).store.instance? ⟨0⟩).map
    (fun i => (i.isActive, isOverdue i ⟨60, 0⟩, i.definitionId, sources (reminding node) i)) =
      some (true, false, "reminding", [⟨none, everyMinute⟩, ⟨some node, everyMinute⟩])
  found : (Action.run (history heardEngine countedIds (awaiting node)).world
    (history heardEngine countedIds (awaiting node)).ambient
    (definition heardEngine "reminding")).1.1 = .ok (reminding node)

theorem awaited_hyphen : Awaited "-" := by
  constructor <;> rw [history_awaiting (by cbv) (by cbv)] <;> cbv

theorem awaited_work : Awaited "work" := by
  constructor <;> rw [history_awaiting (by cbv) (by cbv)] <;> cbv

variable {node : String} {place : Option String} {minute : Int}

theorem Awaited.dueAt_iff (h : Awaited node) :
    (history heardEngine countedIds (awaiting node)).DueAt heardEngine (Span.ofSeconds 60) ⟨60, 0⟩
      ⟨0⟩ place minute ↔
        (place = none ∨ place = some node) ∧
          Source.Due (Span.ofSeconds 60) ⟨60, 0⟩ ⟨place, everyMinute⟩ minute := by
  obtain ⟨i, hi, hfacts⟩ := Option.map_eq_some_iff.1 h.stored
  simp only [Prod.mk.injEq] at hfacts
  obtain ⟨hactive, hoverdue, hname, hsources⟩ := hfacts
  constructor
  · rintro ⟨j, d, source, hj, -, -, hd, hsource, rfl, hdue⟩
    obtain rfl : i = j := Option.some.inj (hi.symm.trans hj)
    rw [hname, h.found] at hd
    obtain rfl := Except.ok.inj hd
    rw [hsources] at hsource
    simp only [List.mem_cons, List.not_mem_nil, or_false] at hsource
    rcases hsource with rfl | rfl
    · exact ⟨Or.inl rfl, hdue⟩
    · exact ⟨Or.inr rfl, hdue⟩
  · rintro ⟨hplace, hdue⟩
    refine ⟨i, reminding node, ⟨place, everyMinute⟩, hi, hactive, hoverdue, by rw [hname, h.found],
      ?_, rfl, hdue⟩
    rw [hsources]
    rcases hplace with rfl | rfl
    · exact List.mem_cons_self
    · exact List.mem_cons_of_mem _ List.mem_cons_self

theorem Awaited.wasDue_iff (h : Awaited node) :
    wasDue heardEngine countedIds (awaiting node ++ [.tick (Span.ofSeconds 60) ⟨60, 0⟩]) ⟨0⟩ place
      minute ↔ (place = none ∨ place = some node) ∧
        Source.Due (Span.ofSeconds 60) ⟨60, 0⟩ ⟨place, everyMinute⟩ minute := by
  rw [wasDue_concat, ← h.dueAt_iff]
  constructor
  · rintro (⟨earlier, tolerance, now, later, hrs, -⟩ | ⟨tolerance, now, htick, hdue⟩)
    · have hmem : Request.tick tolerance now ∈ awaiting node := by simp [hrs]
      simp [awaiting] at hmem
    · cases htick
      exact hdue
  · exact fun hdue => Or.inr ⟨_, _, rfl, hdue⟩

/-- Of an instance and its node with a hyphen for its id, one is not told of. -/
theorem not_remindsOnce_hyphen :
    wasDue heardEngine countedIds (awaiting "-" ++ [.tick (Span.ofSeconds 60) ⟨60, 0⟩]) ⟨0⟩ none 1 ∧
      wasDue heardEngine countedIds (awaiting "-" ++ [.tick (Span.ofSeconds 60) ⟨60, 0⟩]) ⟨0⟩
        (some "-") 1 ∧
      ¬ RemindsOnce heardEngine countedIds 0
        (awaiting "-" ++ [.tick (Span.ofSeconds 60) ⟨60, 0⟩]) ⟨0⟩ := by
  have hown := awaited_hyphen.wasDue_iff.2 ⟨Or.inl rfl, due_everyMinute none⟩
  have hnode := awaited_hyphen.wasDue_iff.2 ⟨Or.inr rfl, due_everyMinute (some "-")⟩
  exact ⟨hown, hnode, not_remindsOnce_of_due reminds_heardEngine hown hnode⟩

/-- An instance and its node are both told of, for the same minute. -/
theorem remindsOnce_work :
    heardEngine.bus.Reminds 0 ∧
      RemindsOnce heardEngine countedIds 0
        (awaiting "work" ++ [.tick (Span.ofSeconds 60) ⟨60, 0⟩]) ⟨0⟩ ∧
      wasDue heardEngine countedIds (awaiting "work" ++ [.tick (Span.ofSeconds 60) ⟨60, 0⟩]) ⟨0⟩
        none 1 ∧
      wasDue heardEngine countedIds (awaiting "work" ++ [.tick (Span.ofSeconds 60) ⟨60, 0⟩]) ⟨0⟩
        (some "work") 1 := by
  refine ⟨reminds_heardEngine, (remindsOnce_iff reminds_heardEngine).2 ?_,
    awaited_work.wasDue_iff.2 ⟨Or.inl rfl, due_everyMinute none⟩,
    awaited_work.wasDue_iff.2 ⟨Or.inr rfl, due_everyMinute (some "work")⟩⟩
  rintro ⟨minute, -, hnode⟩
  obtain ⟨hplace, -⟩ := awaited_work.wasDue_iff.1 hnode
  simp at hplace

end EveryMinute

end Session

end Workflow
